import DexterVault.Core.History
import DexterVault.Program.Change
import DexterVault.Program.Deployment

/-!
# The life of a claim

A claim is created pending, may change hands while it is pending, and is left
once, to its holder or back to the buyer.  Four instructions act on it; each is
one move of the claim.
-/

namespace DexterVault.ClaimLife

open Function
open DexterVault.Machine
open DexterVault.Framing
open DexterVault.Accounts
open DexterVault.Execution
open DexterVault.Transition
open DexterVault.Setup
open DexterVault.Session
open DexterVault.Gate
open DexterVault.Voucher
open DexterVault.Claim
open DexterVault.Program

variable {runtime : Runtime} {claimKey : Pubkey}

/-! ## Moves of one claim -/

/-- The claim that a call writes. -/
def writtenClaim : Call → Option Pubkey
  | .lockVoucher _ accounts _ => some accounts.claim
  | .transferLockOwnership _ accounts _ => some accounts.claim
  | .settleLockedVoucher _ accounts => some accounts.claim
  | .recoverAbandonedLock _ accounts _ => some accounts.claim
  | _ => none

/-- What an accepted call makes of one claim. -/
inductive ClaimMove (before : State) (claimKey : Pubkey) :
    Call → Option LockedClaim → Prop
  | kept {call : Call} (hother : writtenClaim call ≠ some claimKey) :
      ClaimMove before claimKey call (before.claim? claimKey)
  | locked {context : Context} {accounts : LockVoucher} {args : LockVoucherArgs}
      {bump : U8} {sessionPubkey : FixedBytes 32} {delta : U64}
      (hkey : accounts.claim = claimKey)
      (hvacant : before.claim? claimKey = none)
      (hdeadlines : RecoveryAfterMaturity args.maturityAt args.holderRecoveryAt) :
      ClaimMove before claimKey (.lockVoucher context accounts args)
        (some (newClaim bump accounts.vault accounts.sellerHolder sessionPubkey
          delta context.unixTimestamp args))
  | transferred {context : Context} {accounts : TransferLockOwnership}
      {args : TransferLockOwnershipArgs} {claim : LockedClaim}
      (hkey : accounts.claim = claimKey)
      (hclaim : before.claim? claimKey = some claim)
      (hpending : claim.status = .pending)
      (hsigned : claim.currentHolder ∈ context.signers) :
      ClaimMove before claimKey (.transferLockOwnership context accounts args)
        (some { claim with currentHolder := args.newHolder })
  | settled {context : Context} {accounts : SettleLockedVoucher}
      {claim : LockedClaim} (hkey : accounts.claim = claimKey)
      (hclaim : before.claim? claimKey = some claim)
      (hpending : claim.status = .pending)
      (hmatured : ∀ maturity ∈ claim.maturityAt,
        maturity ≤ context.unixTimestamp) :
      ClaimMove before claimKey (.settleLockedVoucher context accounts)
        (some { claim with
          status := .settled
          settledAt := some context.unixTimestamp })
  | recovered {context : Context} {accounts : RecoverAbandonedLock}
      {args : Webauthn.Assertion} {claim : LockedClaim}
      (hkey : accounts.claim = claimKey)
      (hclaim : before.claim? claimKey = some claim)
      (hpending : claim.status = .pending)
      (hdue : ∃ recovery ∈ claim.holderRecoveryAt,
        recovery ≤ context.unixTimestamp) :
      ClaimMove before claimKey (.recoverAbandonedLock context accounts args)
        (some { claim with
          status := .abandoned
          recoveredAt := some context.unixTimestamp })

section Moves

variable {before after : State} {call : Call}

/-- A write to one claim, seen from any claim. -/
theorem ClaimMove.of_update {key : Pubkey} {claim : LockedClaim}
    (claimKey : Pubkey) (hcall : writtenClaim call = some key)
    (hmove : key = claimKey →
      ClaimMove before claimKey call (some claim)) :
    ClaimMove before claimKey call
      (update before.claim? key (some claim) claimKey) := by
  by_cases hkey : key = claimKey
  · rw [hkey, update_self]
    exact hmove hkey
  · rw [update_of_ne (Ne.symm hkey)]
    apply ClaimMove.kept
    rw [hcall]
    exact fun hsame => hkey (Option.some.inj hsame)

theorem ClaimMove.of_same (claimKey : Pubkey) (hcall : writtenClaim call = none)
    (hclaims : after.claim? = before.claim?) :
    ClaimMove before claimKey call (after.claim? claimKey) := by
  rw [hclaims]
  apply ClaimMove.kept
  rw [hcall]
  exact (Option.some_ne_none claimKey).symm

theorem writtenClaim_of_quiet (hquiet : call.quiet = true) :
    writtenClaim call = none := by
  cases call <;> first | rfl | cases hquiet

theorem writtenClaim_of_boundSwig {bound : Pubkey × Pubkey}
    (hbound : call.boundSwig = some bound) : writtenClaim call = none := by
  cases call <;> first | rfl | cases hbound

theorem step_claim (claimKey : Pubkey)
    (hstep : step runtime before call = .ok after) :
    ClaimMove before claimKey call (after.claim? claimKey) := by
  cases step_change hstep with
  | quiet hquiet hsame =>
      exact .of_same claimKey (writtenClaim_of_quiet hquiet) hsame.claims
  | created _ _ hviews => exact .of_same claimKey rfl hviews.claims
  | bound hcall _ _ hviews =>
      exact .of_same claimKey (writtenClaim_of_boundSwig hcall) hviews.claims
  | tabOpened _ hviews => exact .of_same claimKey rfl hviews.claims
  | tabSettled _ hviews => exact .of_same claimKey rfl hviews.claims
  | locked hlocked hviews =>
      rw [hviews.claims]
      apply ClaimMove.of_update claimKey rfl
      rintro rfl
      exact .locked rfl (State.view_of_lookup_none hlocked.vacant)
        (lockVoucher_deadlines hstep)
  | transferred hclaim hviews =>
      rw [hviews.claims]
      apply ClaimMove.of_update claimKey rfl
      rintro rfl
      obtain ⟨claim, hfound, hpending, -⟩ := transferLockOwnership_ok hstep
      obtain rfl := Option.some.inj (hfound.symm.trans hclaim)
      exact .transferred rfl hclaim hpending
        (transferLockOwnership_signed hstep hclaim)
  | claimSettled hsettled hviews =>
      rw [hviews.claims]
      apply ClaimMove.of_update claimKey rfl
      rintro rfl
      exact .settled rfl hsettled.claimAt hsettled.pending
        (settleLockedVoucher_matured hstep hsettled.claimAt)
  | claimRecovered hrecovered hviews =>
      rw [hviews.claims]
      apply ClaimMove.of_update claimKey rfl
      rintro rfl
      exact .recovered rfl hrecovered.claimAt hrecovered.pending
        (recoverAbandonedLock_due hstep hrecovered.claimAt)
  | registered _ _ hviews => exact .of_same claimKey rfl hviews.claims
  | revoked _ _ hviews => exact .of_same claimKey rfl hviews.claims
  | closed _ _ hviews => exact .of_same claimKey rfl hviews.claims
  | migrated _ hviews => exact .of_same claimKey rfl hviews.claims
  | migratedWithSession _ hviews => exact .of_same claimKey rfl hviews.claims

theorem environment_claims (hmove : Environment before after) :
    after.claim? = before.claim? :=
  (environment_views hmove).claims

end Moves

/-! ## What a claim says about its own past -/

/-- The status and the two times of a claim agree with each other and with its
deadlines. -/
structure Lawful (claim : LockedClaim) : Prop where
  settled : claim.status = .settled ↔ claim.settledAt ≠ none
  matured : ∀ settledAt ∈ claim.settledAt, ∀ maturity ∈ claim.maturityAt,
    maturity ≤ settledAt
  abandoned : claim.status = .abandoned ↔ claim.recoveredAt ≠ none
  due : ∀ recoveredAt ∈ claim.recoveredAt,
    ∃ recovery ∈ claim.holderRecoveryAt, recovery ≤ recoveredAt
  deadlines : RecoveryAfterMaturity claim.maturityAt claim.holderRecoveryAt

/-- A recovery comes strictly after maturity. -/
theorem Lawful.late {claim : LockedClaim} (hlawful : Lawful claim) :
    ∀ recoveredAt ∈ claim.recoveredAt, ∀ maturity ∈ claim.maturityAt,
      maturity < recoveredAt := by
  intro recoveredAt hrecovered maturity hmaturity
  obtain ⟨recovery, hrecovery, hdue⟩ := hlawful.due recoveredAt hrecovered
  have hordered := hlawful.deadlines maturity hmaturity recovery hrecovery
  rw [I64.lt_def] at hordered ⊢
  rw [I64.le_def] at hdue
  exact lt_of_lt_of_le hordered hdue

/-- What is fixed when a claim is locked. -/
structure LockTerms where
  vault : Pubkey
  amount : U64
  voucherHash : FixedBytes 32
  sessionPubkeyAtLock : FixedBytes 32
  createdAt : I64
  maturityAt : Option I64
  holderRecoveryAt : Option I64

def lockTerms (claim : LockedClaim) : LockTerms where
  vault := claim.vault
  amount := claim.amount
  voucherHash := claim.voucherHash
  sessionPubkeyAtLock := claim.sessionPubkeyAtLock
  createdAt := claim.createdAt
  maturityAt := claim.maturityAt
  holderRecoveryAt := claim.holderRecoveryAt

/-- A later state of a claim has the terms of the lock, and is the same claim
altogether once the claim has left `Pending`. -/
structure Evolves (earlier later : LockedClaim) : Prop where
  terms : lockTerms later = lockTerms earlier
  terminal : earlier.status ≠ .pending → later = earlier

theorem Evolves.refl (claim : LockedClaim) : Evolves claim claim :=
  ⟨rfl, fun _ => rfl⟩

theorem Evolves.trans {earlier middle later : LockedClaim}
    (hfirst : Evolves earlier middle) (hsecond : Evolves middle later) :
    Evolves earlier later := by
  constructor
  · exact hsecond.terms.trans hfirst.terms
  · intro hleft
    obtain rfl := hfirst.terminal hleft
    exact hsecond.terminal hleft

/-- A pending claim may evolve into any claim with the same terms. -/
theorem Evolves.of_pending {earlier later : LockedClaim}
    (hpending : earlier.status = .pending)
    (hterms : lockTerms later = lockTerms earlier) : Evolves earlier later :=
  ⟨hterms, fun hleft => absurd hpending hleft⟩

section Steps

variable {before after : State} {call : Call} {claim : LockedClaim}

/-- The times of a pending claim are not set. -/
theorem Lawful.unset (hlawful : Lawful claim) (hpending : claim.status = .pending) :
    claim.settledAt = none ∧ claim.recoveredAt = none := by
  constructor
  · by_contra hset
    have hsettled := hlawful.settled.mpr hset
    rw [hpending] at hsettled
    cases hsettled
  · by_contra hset
    have habandoned := hlawful.abandoned.mpr hset
    rw [hpending] at habandoned
    cases habandoned

theorem Lawful.settle {now : I64} (hlawful : Lawful claim)
    (hpending : claim.status = .pending)
    (hmatured : ∀ maturity ∈ claim.maturityAt, maturity ≤ now) :
    Lawful { claim with status := .settled, settledAt := some now } := by
  have hunset := (hlawful.unset hpending).2
  constructor
  case settled => exact ⟨fun _ => Option.some_ne_none now, fun _ => rfl⟩
  case matured =>
    rintro _ ⟨⟩ maturity hmaturity
    exact hmatured maturity hmaturity
  case abandoned =>
    constructor
    · intro habandoned
      cases habandoned
    · exact fun hset => absurd hunset hset
  case due => exact hlawful.due
  case deadlines => exact hlawful.deadlines

theorem Lawful.recover {now : I64} (hlawful : Lawful claim)
    (hpending : claim.status = .pending)
    (hdue : ∃ recovery ∈ claim.holderRecoveryAt, recovery ≤ now) :
    Lawful { claim with status := .abandoned, recoveredAt := some now } := by
  have hunset := (hlawful.unset hpending).1
  constructor
  case settled =>
    constructor
    · intro hsettled
      cases hsettled
    · exact fun hset => absurd hunset hset
  case matured => exact hlawful.matured
  case abandoned => exact ⟨fun _ => Option.some_ne_none now, fun _ => rfl⟩
  case due =>
    rintro _ ⟨⟩
    exact hdue
  case deadlines => exact hlawful.deadlines

/-- The step lemma for the law of one claim. -/
theorem lawful_step
    (hlawful : ∀ claim, before.claim? claimKey = some claim → Lawful claim)
    (hstep : step runtime before call = .ok after) :
    ∀ claim, after.claim? claimKey = some claim → Lawful claim := by
  have hmove := step_claim claimKey hstep
  intro claim hafter
  rw [hafter] at hmove
  generalize hmoved : some claim = moved at hmove
  cases hmove with
  | kept hother => exact hlawful claim hmoved.symm
  | locked hkey hvacant hdeadlines =>
      cases hmoved
      constructor
      case settled =>
        exact ⟨fun hsettled => (by cases hsettled), fun hset => absurd rfl hset⟩
      case matured => exact fun _ hnone => by cases hnone
      case abandoned =>
        exact ⟨fun hleft => (by cases hleft), fun hset => absurd rfl hset⟩
      case due => exact fun _ hnone => by cases hnone
      case deadlines => exact hdeadlines
  | transferred hkey hclaim hpending hsigned =>
      cases hmoved
      have hfound := hlawful _ hclaim
      exact ⟨hfound.settled, hfound.matured, hfound.abandoned, hfound.due,
        hfound.deadlines⟩
  | settled hkey hclaim hpending hmatured =>
      cases hmoved
      exact (hlawful _ hclaim).settle hpending hmatured
  | recovered hkey hclaim hpending hdue =>
      cases hmoved
      exact (hlawful _ hclaim).recover hpending hdue

/-- The step lemma for the evolution of one claim. -/
theorem evolves_step (hclaim : before.claim? claimKey = some claim)
    (hstep : step runtime before call = .ok after) :
    ∃ later, after.claim? claimKey = some later ∧ Evolves claim later ∧
      (later.currentHolder ≠ claim.currentHolder →
        claim.status = .pending ∧
          claim.currentHolder ∈ call.context.signers) := by
  have hmove := step_claim claimKey hstep
  generalize after.claim? claimKey = moved at hmove
  cases hmove with
  | kept hother =>
      exact ⟨claim, hclaim, .refl claim, fun hne => absurd rfl hne⟩
  | locked hkey hvacant hdeadlines => cases hvacant.symm.trans hclaim
  | transferred hkey hfound hpending hsigned =>
      obtain rfl := Option.some.inj (hfound.symm.trans hclaim)
      exact ⟨_, rfl, .of_pending hpending rfl, fun _ => ⟨hpending, hsigned⟩⟩
  | settled hkey hfound hpending hmatured =>
      obtain rfl := Option.some.inj (hfound.symm.trans hclaim)
      exact ⟨_, rfl, .of_pending hpending rfl, fun hne => absurd rfl hne⟩
  | recovered hkey hfound hpending hdue =>
      obtain rfl := Option.some.inj (hfound.symm.trans hclaim)
      exact ⟨_, rfl, .of_pending hpending rfl, fun hne => absurd rfl hne⟩

end Steps

/-! ## A claim is left once -/

/-- The claim and the vault of a call that pays a claim out or returns it. -/
structure ClaimExit where
  claim : Pubkey
  vault : Pubkey
  deriving DecidableEq

def claimExit : Call → Option ClaimExit
  | .settleLockedVoucher _ accounts => some ⟨accounts.claim, accounts.vault⟩
  | .recoverAbandonedLock _ accounts _ => some ⟨accounts.claim, accounts.vault⟩
  | _ => none

/-- One for a call that leaves the claim, zero for any other. -/
def exitCount (claimKey : Pubkey) (accepted : Accepted State Call) : ℕ :=
  if ∃ exit ∈ claimExit accepted.call, exit.claim = claimKey then 1 else 0

/-- The claim was left at most once, and not at all while it is pending or does
not exist. -/
structure LeftOnce (claimKey : Pubkey) (trace : Trace) (state : State) :
    Prop where
  once : moved (exitCount claimKey) trace ≤ 1
  fresh : (∀ claim, state.claim? claimKey = some claim →
    claim.status = .pending) → moved (exitCount claimKey) trace = 0

section Exits

variable {trace : Trace} {before after : State} {call : Call}

theorem exitCount_of_other (hother : writtenClaim call ≠ some claimKey) :
    exitCount claimKey ⟨before, call, after⟩ = 0 := by
  apply if_neg
  rintro ⟨exit, hexit, rfl⟩
  cases call with
  | settleLockedVoucher =>
      cases hexit
      exact hother rfl
  | recoverAbandonedLock =>
      cases hexit
      exact hother rfl
  | _ => cases hexit

/-- A call that leaves no claim keeps the count. -/
theorem LeftOnce.stay (hleft : LeftOnce claimKey trace before)
    (hcount : exitCount claimKey ⟨before, call, after⟩ = 0)
    (hfresh : (∀ claim, after.claim? claimKey = some claim →
        claim.status = .pending) →
      ∀ claim, before.claim? claimKey = some claim → claim.status = .pending) :
    LeftOnce claimKey (⟨before, call, after⟩ :: trace) after := by
  constructor
  · rw [moved_cons, hcount, Nat.zero_add]
    exact hleft.once
  · intro hpending
    rw [moved_cons, hcount, Nat.zero_add]
    exact hleft.fresh (hfresh hpending)

/-- A call that leaves a pending claim is the first one. -/
theorem LeftOnce.leave {claim written : LockedClaim}
    (hleft : LeftOnce claimKey trace before)
    (hclaim : before.claim? claimKey = some claim)
    (hpending : claim.status = .pending)
    (hcount : exitCount claimKey ⟨before, call, after⟩ = 1)
    (hafter : after.claim? claimKey = some written)
    (hwritten : written.status ≠ .pending) :
    LeftOnce claimKey (⟨before, call, after⟩ :: trace) after := by
  have hzero : moved (exitCount claimKey) trace = 0 := by
    apply hleft.fresh
    intro found hfound
    obtain rfl := Option.some.inj (hclaim.symm.trans hfound)
    exact hpending
  constructor
  · rw [moved_cons, hcount, hzero]
  · exact fun hfresh => absurd (hfresh written hafter) hwritten

/-- The step lemma for the exits of one claim. -/
theorem leftOnce_step (hleft : LeftOnce claimKey trace before)
    (hstep : step runtime before call = .ok after) :
    LeftOnce claimKey (⟨before, call, after⟩ :: trace) after := by
  have hmove := step_claim claimKey hstep
  generalize hafter : after.claim? claimKey = moved at hmove
  cases hmove with
  | kept hother =>
      apply hleft.stay (exitCount_of_other hother)
      rw [hafter]
      exact id
  | locked hkey hvacant hdeadlines =>
      apply hleft.stay rfl
      intro _ claim hclaim
      cases hvacant.symm.trans hclaim
  | transferred hkey hclaim hpending hsigned =>
      apply hleft.stay rfl
      intro _ claim hfound
      obtain rfl := Option.some.inj (hclaim.symm.trans hfound)
      exact hpending
  | settled hkey hclaim hpending hmatured =>
      exact hleft.leave hclaim hpending (if_pos ⟨_, rfl, hkey⟩) hafter
        fun hstatus => by cases hstatus
  | recovered hkey hclaim hpending hdue =>
      exact hleft.leave hclaim hpending (if_pos ⟨_, rfl, hkey⟩) hafter
        fun hstatus => by cases hstatus

end Exits

/-! ## Exits do not depend on sessions -/

/-- A vault but for the number of its sessions. -/
def sessionless (vault : Vault) : Vault := { vault with liveSessionCount := 0 }

/-- Two states with the same claim, and the same vault but for the number of its
sessions. -/
structure SameStanding (exit : ClaimExit) (left right : State) : Prop where
  claim : right.claim? exit.claim = left.claim? exit.claim
  vault : (right.vault? exit.vault).map sessionless =
    (left.vault? exit.vault).map sessionless

/-- The calls that register, replace, revoke or close a session. -/
def sessionCall : Call → Bool
  | .registerSessionKey .. | .revokeSessionKey .. | .closeSession .. => true
  | _ => false

section Standing

variable {left right next before after : State} {call : Call} {exit : ClaimExit}

/-- The vault found at the other side of two states with the same standing. -/
theorem SameStanding.vault_right {vault : Vault}
    (hsame : SameStanding exit left right)
    (hvault : left.vault? exit.vault = some vault) :
    ∃ other, right.vault? exit.vault = some other ∧
      sessionless other = sessionless vault := by
  have hmapped := hsame.vault
  rw [hvault, Option.map_some] at hmapped
  exact Option.map_eq_some_iff.mp hmapped

/-- The same writes to the claim and to its vault keep the standing. -/
theorem SameStanding.write {claim : LockedClaim} {vault other : Vault}
    (hne : exit.claim ≠ exit.vault)
    (hsame : sessionless other = sessionless vault) :
    SameStanding exit
      ((left.write exit.claim (.claim claim)).write exit.vault (.vault vault))
      ((right.write exit.claim (.claim claim)).write exit.vault
        (.vault other)) := by
  constructor
  · rw [State.claim?, State.view_write, if_neg hne, State.view_write_self,
      State.claim?, State.view_write, if_neg hne, State.view_write_self]
  · rw [State.vault?, State.view_write_self, State.vault?,
      State.view_write_self]
    exact congrArg some hsame

theorem settleLockedVoucher_standing {context : Context}
    {accounts : SettleLockedVoucher}
    (hsame : SameStanding ⟨accounts.claim, accounts.vault⟩ left right)
    (hok : settleLockedVoucher runtime context accounts left = .ok next) :
    ∃ other, settleLockedVoucher runtime context accounts right = .ok other ∧
      SameStanding ⟨accounts.claim, accounts.vault⟩ next other := by
  simp only [settleLockedVoucher, loadClaim, loadVault, requireSigner,
    requireAddress, requireDexterAuthority, bind_eq_ok_iff, load_eq_ok_iff,
    require_eq_ok_iff, pure_eq_ok_iff] at hok ⊢
  obtain ⟨claim, hclaim, vault, hvault, _, hsigner, _, hswig, bump, hwallet, _,
    hpending, _, hvaultOf, _, hholder, _, ⟨_, hauthority, hdexter⟩, _, hmatured,
    rfl⟩ := hok
  obtain ⟨other, hother, hvaults⟩ := hsame.vault_right hvault
  have hotherSwig := congrArg Vault.swigAddress hvaults
  have hotherDexter := congrArg Vault.dexterAuthority hvaults
  refine ⟨_, ⟨claim, hsame.claim.trans hclaim, other, hother, (), hsigner, (),
    hswig.trans hotherSwig.symm, bump, hwallet, (), hpending, (), hvaultOf, (),
    hholder, (), ⟨(), hauthority, hotherDexter.trans hdexter⟩, (), hmatured,
    rfl⟩, ?_⟩
  apply SameStanding.write (State.ne_of_claim?_of_vault? hclaim hvault)
  exact congrArg (fun vault : Vault => { vault with
    outstandingLockedAmount :=
      saturatingSub vault.outstandingLockedAmount claim.amount
    totalSettledAmount :=
      saturatingAdd vault.totalSettledAmount claim.amount }) hvaults

theorem recoverAbandonedLock_standing {context : Context}
    {accounts : RecoverAbandonedLock} {args : Webauthn.Assertion}
    (hsame : SameStanding ⟨accounts.claim, accounts.vault⟩ left right)
    (hok : recoverAbandonedLock runtime context accounts args left =
      .ok next) :
    ∃ other,
      recoverAbandonedLock runtime context accounts args right = .ok other ∧
        SameStanding ⟨accounts.claim, accounts.vault⟩ next other := by
  simp only [recoverAbandonedLock, loadClaim, loadVault, bind_eq_ok_iff,
    load_eq_ok_iff, okOr_eq_ok_iff, require_eq_ok_iff, pure_eq_ok_iff] at hok ⊢
  obtain ⟨claim, hclaim, vault, hvault, _, hpending, _, hvaultOf, recovery,
    hrecovery, _, hdue, _, hsigned, rfl⟩ := hok
  obtain ⟨other, hother, hvaults⟩ := hsame.vault_right hvault
  have hpasskey := congrArg Vault.passkeyPubkey hvaults
  change other.passkeyPubkey = vault.passkeyPubkey at hpasskey
  rw [← hpasskey] at hsigned
  refine ⟨_, ⟨claim, hsame.claim.trans hclaim, other, hother, (), hpending, (),
    hvaultOf, recovery, hrecovery, (), hdue, (), hsigned, rfl⟩, ?_⟩
  apply SameStanding.write (State.ne_of_claim?_of_vault? hclaim hvault)
  exact congrArg (fun vault : Vault => { vault with
    outstandingLockedAmount :=
      saturatingSub vault.outstandingLockedAmount claim.amount }) hvaults

/-- A call that leaves a claim sees the claim and its vault only. -/
theorem exit_standing (hexit : claimExit call = some exit)
    (hsame : SameStanding exit left right)
    (hstep : step runtime left call = .ok next) :
    ∃ other, step runtime right call = .ok other ∧
      SameStanding exit next other := by
  cases call with
  | settleLockedVoucher =>
      cases hexit
      exact settleLockedVoucher_standing hsame hstep
  | recoverAbandonedLock =>
      cases hexit
      exact recoverAbandonedLock_standing hsame hstep
  | _ => cases hexit

/-- Writes to sessions, and then to the number of sessions of a vault. -/
theorem sessionless_write {vaultKey : Pubkey} {vault : Vault}
    (hvaults : next.vault? = before.vault?)
    (hvault : before.vault? vaultKey = some vault) (count : U8)
    (key : Pubkey) :
    ((next.write vaultKey (.vault { vault with
        liveSessionCount := count })).vault? key).map sessionless =
      (before.vault? key).map sessionless := by
  rw [State.vault?, State.view_write]
  split
  · next hkey =>
      rw [hkey, hvault]
      rfl
  · exact congrArg (Option.map sessionless) (congrFun hvaults key)

theorem sessionCall_claims (hcall : sessionCall call = true)
    (hstep : step runtime before call = .ok after) :
    after.claim? = before.claim? := by
  funext claimKey
  have hmove := step_claim claimKey hstep
  generalize after.claim? claimKey = moved at hmove
  cases hmove with
  | kept => rfl
  | locked => cases hcall
  | transferred => cases hcall
  | settled => cases hcall
  | recovered => cases hcall

theorem sessionCall_vaults (hcall : sessionCall call = true)
    (hstep : step runtime before call = .ok after) (key : Pubkey) :
    (after.vault? key).map sessionless = (before.vault? key).map sessionless := by
  cases call with
  | registerSessionKey context accounts args =>
      obtain ⟨vault, _, session, bump, gate, count, hregistered, -, -, rfl⟩ :=
        registerSessionKey_gate hstep
      have hswept : gate.state.vault? = before.vault? := hregistered.run.vaults
      have hsession : gate.state.vault? accounts.session = none := by
        rw [hswept]
        rcases hregistered.found with ⟨hvacant, -⟩ | hsession
        · exact State.view_of_lookup_none hvacant
        · exact State.view_of_session? hsession
      have hvaults : (gate.state.write accounts.session (.session
          (writtenSession session bump accounts.vault args))).vault? =
            before.vault? := (State.view_write_of_eq hsession).trans hswept
      exact sessionless_write hvaults hregistered.vaultAt count key
  | revokeSessionKey context accounts args =>
      obtain ⟨vault, session, count, hrevoked, -, rfl⟩ :=
        revokeSessionKey_ok hstep
      have hsession : before.vault? accounts.session = none :=
        State.view_of_session? hrevoked.sessionAt
      have hvaults : (before.write accounts.session
          (.session session.clear)).vault? = before.vault? :=
        State.view_write_of_eq hsession
      exact sessionless_write hvaults hrevoked.vaultAt count key
  | closeSession context accounts args =>
      obtain ⟨session, hsession, -, rfl⟩ := closeSession_ok hstep
      have hnone : before.vault? accounts.session = none :=
        State.view_of_session? hsession
      exact congrArg (Option.map sessionless)
        (congrFun (State.view_close_of_none hnone) key)
  | _ => cases hcall

/-- The calls on sessions change the standing of no claim. -/
theorem sessionCall_standing (hcall : sessionCall call = true)
    (hstep : step runtime before call = .ok after) (exit : ClaimExit) :
    SameStanding exit before after where
  claim := congrFun (sessionCall_claims hcall hstep) exit.claim
  vault := sessionCall_vaults hcall hstep exit.vault

end Standing

/-! ## Runs -/

/-- A holder is succeeded in a transaction that it signed, while the claim was
pending. -/
def ReleasedBy (claimKey holder : Pubkey) (trace : Trace) : Prop :=
  ∃ accepted ∈ trace, holder ∈ accepted.call.context.signers ∧
    ∃ claim ∈ accepted.before.claim? claimKey,
      claim.currentHolder = holder ∧ claim.status = .pending

/-- What the later states of a claim are, after the calls of `trace`. -/
def Continues (claimKey : Pubkey) (claim : LockedClaim) (trace : Trace)
    (state : State) : Prop :=
  ∃ later, state.claim? claimKey = some later ∧ Evolves claim later ∧
    (later.currentHolder ≠ claim.currentHolder →
      ReleasedBy claimKey claim.currentHolder trace)

/-- Settling and recovering read the claim and its vault, and of the vault not
the number of its sessions: whatever else differs, they do the same. -/
def ReadsClaimAndVault (runtime : Runtime) : Prop :=
  ∀ call exit left right next, claimExit call = some exit →
    SameStanding exit left right → step runtime left call = .ok next →
      ∃ other, step runtime right call = .ok other ∧
        SameStanding exit next other

/-- A call on a session changes the standing of no claim. -/
def KeepsStandings (accepted : Accepted State Call) : Prop :=
  sessionCall accepted.call = true →
    ∀ exit, SameStanding exit accepted.before accepted.after

section Runs

variable {start state final : State} {trace later : Trace}

theorem lawful_run (hstart : start.claim? claimKey = none)
    (hrun : Run (system runtime) start trace state) :
    ∀ claim, state.claim? claimKey = some claim → Lawful claim := by
  apply hrun.invariant fun state =>
    ∀ claim, state.claim? claimKey = some claim → Lawful claim
  · intro claim hclaim
    cases hstart.symm.trans hclaim
  · exact fun before call after hlawful hstep => lawful_step hlawful hstep
  · intro before after hlawful hmove
    rw [environment_claims hmove]
    exact hlawful

theorem leftOnce_run (hrun : Run (system runtime) start trace state) :
    LeftOnce claimKey trace state := by
  apply hrun.history_invariant (LeftOnce claimKey) _ _ _ (guarded_true trace)
  · exact ⟨Nat.zero_le 1, fun _ => rfl⟩
  · exact fun earlier before call after hleft hstep _ =>
      leftOnce_step hleft hstep
  · intro earlier before after hleft hmove
    refine ⟨hleft.once, fun hpending => hleft.fresh ?_⟩
    rw [← environment_claims hmove]
    exact hpending

theorem continues_run {claim : LockedClaim}
    (hclaim : state.claim? claimKey = some claim)
    (hlater : Run (system runtime) state later final) :
    Continues claimKey claim later final := by
  apply hlater.history_invariant (Continues claimKey claim) _ _ _
    (guarded_true later)
  · exact ⟨claim, hclaim, .refl claim, fun hne => absurd rfl hne⟩
  · rintro earlier before call after ⟨middle, hmiddle, hevolved, hheld⟩ hstep -
    obtain ⟨found, hfound, hstepped, hsigned⟩ := evolves_step hmiddle hstep
    refine ⟨found, hfound, hevolved.trans hstepped, fun hne => ?_⟩
    by_cases hholder : middle.currentHolder = claim.currentHolder
    · -- the holder leaves in this call
      rw [← hholder] at hne ⊢
      obtain ⟨hpending, hsigner⟩ := hsigned hne
      exact ⟨_, List.mem_cons_self, hsigner, middle, hmiddle, rfl, hpending⟩
    · obtain ⟨accepted, hmem, hreleased⟩ := hheld hholder
      exact ⟨accepted, List.mem_cons_of_mem _ hmem, hreleased⟩
  · intro earlier before after hcontinues hmove
    rw [Continues, environment_claims hmove]
    exact hcontinues

/-- Along every run each claim obeys its law, keeps its terms and its terminal
status, changes hands only by the signature of its holder and is left once;
settling and recovering it do not depend on the sessions. -/
theorem claim_life (hstart : ∀ claimKey, start.claim? claimKey = none)
    (hrun : Run (system runtime) start trace state) :
    (∀ claimKey claim, state.claim? claimKey = some claim → Lawful claim ∧
      ∀ recoveredAt ∈ claim.recoveredAt, ∀ maturity ∈ claim.maturityAt,
        maturity < recoveredAt) ∧
    (∀ claimKey claim, state.claim? claimKey = some claim →
      ∀ later final, Run (system runtime) state later final →
        Continues claimKey claim later final) ∧
    (∀ claimKey, moved (exitCount claimKey) trace ≤ 1) ∧
    ReadsClaimAndVault runtime ∧
    ∀ accepted ∈ trace, KeepsStandings accepted := by
  refine ⟨?_, ?_, ?_, ?_, ?_⟩
  · intro claimKey claim hclaim
    have hlawful := lawful_run (hstart claimKey) hrun claim hclaim
    exact ⟨hlawful, hlawful.late⟩
  · exact fun claimKey claim hclaim later final hlater =>
      continues_run hclaim hlater
  · exact fun claimKey => (leftOnce_run hrun).once
  · exact fun call exit left right next hexit hsame hstep =>
      exit_standing hexit hsame hstep
  · apply hrun.forall_accepted KeepsStandings _ (guarded_true trace)
    intro earlier before call after _ _ _ hstep hcall
    exact sessionCall_standing hcall hstep

end Runs

section Examples

open Deployment

/-- The seller settles the claim it holds. -/
def settleClaim : Call :=
  .settleLockedVoucher (plainContext [seller, authority] Deployment.now)
    ⟨swig, walletKey, Deployment.claimKey, Deployment.vaultKey, seller,
      authority⟩

def claimPaid : State :=
  (locked.write Deployment.claimKey (.claim { lockedClaim with
      status := .settled
      settledAt := some Deployment.now })).write Deployment.vaultKey
    (.vault { lockedVault with
      outstandingLockedAmount := 0
      totalSettledAmount := 60 })

theorem claimPaid_step :
    step sampleRuntime locked settleClaim = .ok claimPaid := by
  decide +kernel

def claimPaidTrace : Trace := ⟨locked, settleClaim, claimPaid⟩ :: lockedTrace

theorem claimPaid_run :
    Run (system sampleRuntime) funded claimPaidTrace claimPaid :=
  locked_run.accept claimPaid_step

theorem claim_life_paid :
    (∀ claimKey claim, claimPaid.claim? claimKey = some claim →
      Lawful claim ∧
      ∀ recoveredAt ∈ claim.recoveredAt, ∀ maturity ∈ claim.maturityAt,
        maturity < recoveredAt) ∧
    (∀ claimKey claim, claimPaid.claim? claimKey = some claim →
      ∀ later final, Run (system sampleRuntime) claimPaid later final →
        Continues claimKey claim later final) ∧
    (∀ claimKey, moved (exitCount claimKey) claimPaidTrace ≤ 1) ∧
    ReadsClaimAndVault sampleRuntime ∧
    ∀ accepted ∈ claimPaidTrace, KeepsStandings accepted :=
  claim_life
    (fun claimKey => State.view_of_lookup_none (Finmap.lookup_empty claimKey))
    claimPaid_run

example : moved (exitCount Deployment.claimKey) claimPaidTrace = 1 := by
  decide +kernel

end Examples

end DexterVault.ClaimLife
