import DexterVault.Accounting.Sessions

/-!
# A voucher is accepted once

The program keeps no record of the vouchers it has accepted.  What stands in
for one is the frontier of the session: while every session key is registered
at most once, the frontier of the account that still holds a key is never below
an amount accepted under that key, so the amounts accepted under one key
strictly increase and no voucher is accepted twice, on either path.
-/

namespace DexterVault.Replay

open DexterVault.Framing
open DexterVault.Accounts
open DexterVault.Execution
open DexterVault.Transition
open DexterVault.Voucher
open DexterVault.Program
open DexterVault.Sessions

variable {runtime : Runtime} {key : Pubkey}

/-! ## What a trace has registered and accepted -/

/-- The session key that a call registers: the one of a registration, or the
one carried over from a V5 vault. -/
def registeredPubkey (accepted : Accepted State Call) : Option (FixedBytes 32) :=
  match accepted.call with
  | .registerSessionKey _ _ args => some args.sessionPubkey
  | .migrateV5ToV6WithSession _ accounts _ =>
      (accepted.after.session? accounts.session).map fun account =>
        account.session.sessionPubkey
  | _ => none

def registeredPubkeys (trace : Trace) : List (FixedBytes 32) :=
  trace.filterMap registeredPubkey

/-- A voucher together with the session key it was accepted under. -/
structure SignedVoucher where
  sessionPubkey : FixedBytes 32
  payload : VoucherPayload
  deriving DecidableEq

def acceptedVoucher (accepted : Accepted State Call) : Option SignedVoucher :=
  accepted.call.voucher.bind fun voucher =>
    (accepted.before.session? voucher.session).map fun account =>
      ⟨account.session.sessionPubkey, voucher.payload⟩

def acceptedVouchers (trace : Trace) : List SignedVoucher :=
  trace.filterMap acceptedVoucher

/-- What the session key signs, with the key. -/
def SignedVoucher.signed (voucher : SignedVoucher) : FixedBytes 32 × Bytes :=
  (voucher.sessionPubkey, voucherMessage voucher.payload)

theorem voucherMessage_injective : Function.Injective voucherMessage := by
  intro left right heq
  simp only [voucherMessage, List.append_assoc] at heq
  obtain ⟨hchannel, hrest⟩ := List.append_inj heq (by simp)
  obtain ⟨hamount, hsequence⟩ := List.append_inj hrest (by simp)
  cases left
  cases right
  rw [VoucherPayload.mk.injEq]
  exact ⟨FixedBytes.toList_injective hchannel, encodeU64_injective hamount,
    encodeU32_injective hsequence⟩

/-- A registered account after a call either was registered before it and has
continued, or was written by a call that registers its key. -/
theorem registered_origin {before after : State} {call : Call}
    {later : SessionAccount}
    (hchange : SessionChange runtime before key after call)
    (hlater : IsRegistered after key later) :
    (∃ account, IsRegistered before key account ∧ Continues account later) ∨
      (registeredPubkey ⟨before, call, after⟩ =
          some later.session.sessionPubkey ∧ call.target = some key) := by
  cases hchange.origin hlater with
  | kept haccount hcontinues => exact .inl ⟨_, haccount, hcontinues⟩
  | registered hkey hsession =>
      refine .inr ⟨?_, congrArg some hkey⟩
      rw [hsession]
      rfl
  | carried hkey =>
      subst hkey
      refine .inr ⟨?_, rfl⟩
      simp only [registeredPubkey, hlater.1, Option.map_some]

theorem frontier_mono {earlier later : SessionAccount}
    (hcontinues : Continues earlier later) :
    frontier earlier.session ≤ frontier later.session :=
  max_le_max hcontinues.spent hcontinues.crystallized

/-! ## The frontier stands in for the accepted vouchers -/

/-- The invariant: every registered key is one the trace has registered, no two
accounts hold the same one, and the account that holds a key has a frontier
that no amount accepted under the key exceeds. -/
structure FrontierCovers (trace : Trace) (state : State) : Prop where
  known : ∀ key account, IsRegistered state key account →
    account.session.sessionPubkey ∈ registeredPubkeys trace
  unique : ∀ key account other otherAccount, IsRegistered state key account →
    IsRegistered state other otherAccount →
    account.session.sessionPubkey = otherAccount.session.sessionPubkey →
    key = other
  acceptedKnown : ∀ voucher ∈ acceptedVouchers trace,
    voucher.sessionPubkey ∈ registeredPubkeys trace
  covered : ∀ voucher ∈ acceptedVouchers trace, ∀ key account,
    IsRegistered state key account →
    account.session.sessionPubkey = voucher.sessionPubkey →
    voucher.payload.cumulativeAmount ≤ frontier account.session
  increasing : (acceptedVouchers trace).Pairwise fun later earlier =>
    later.sessionPubkey = earlier.sessionPubkey →
      earlier.payload.cumulativeAmount < later.payload.cumulativeAmount

/-- The session key a call registers has not been registered before. -/
def FreshPubkey (earlier : Trace) (latest : Accepted State Call) : Prop :=
  ∀ pubkey ∈ registeredPubkey latest, pubkey ∉ registeredPubkeys earlier

theorem guarded_freshPubkey {trace : Trace}
    (honce : (registeredPubkeys trace).Nodup) : Guarded FreshPubkey trace := by
  induction trace with
  | nil => trivial
  | cons latest earlier ih =>
      cases hpubkey : registeredPubkey latest with
      | none =>
          rw [registeredPubkeys, List.filterMap_cons_none hpubkey] at honce
          refine ⟨?_, ih honce⟩
          intro pubkey hmem
          rw [hpubkey] at hmem
          cases hmem
      | some pubkey =>
          rw [registeredPubkeys, List.filterMap_cons_some hpubkey,
            List.nodup_cons] at honce
          refine ⟨?_, ih honce.2⟩
          intro other hmem
          obtain rfl := Option.some.inj (hpubkey.symm.trans hmem)
          exact honce.1

theorem FrontierCovers.start {state : State}
    (hnone : state.session? = fun _ => none) : FrontierCovers [] state := by
  have habsent : ∀ key account, ¬ IsRegistered state key account := by
    rintro key account ⟨haccount, -⟩
    rw [hnone] at haccount
    cases haccount
  constructor
  case known => exact fun key account h => absurd h (habsent key account)
  case unique => exact fun key account _ _ h => absurd h (habsent key account)
  case acceptedKnown => simp [acceptedVouchers]
  case covered => simp [acceptedVouchers]
  case increasing => exact List.Pairwise.nil

section Steps

variable {trace : Trace} {before after : State} {call : Call}

/-- A call that registers a new key leaves the history of the others alone. -/
theorem FrontierCovers.register (hcovers : FrontierCovers trace before)
    (hchange : ∀ key, SessionChange runtime before key after call)
    (hvoucher : acceptedVoucher ⟨before, call, after⟩ = none)
    {pubkey : FixedBytes 32}
    (hregisters : registeredPubkey ⟨before, call, after⟩ = some pubkey)
    (hfresh : pubkey ∉ registeredPubkeys trace) :
    FrontierCovers (⟨before, call, after⟩ :: trace) after := by
  have hpubkeys : registeredPubkeys (⟨before, call, after⟩ :: trace) =
      pubkey :: registeredPubkeys trace := List.filterMap_cons_some hregisters
  have hvouchers : acceptedVouchers (⟨before, call, after⟩ :: trace) =
      acceptedVouchers trace := List.filterMap_cons_none hvoucher
  -- an account holds the new key if and only if the call has written it
  have horigin : ∀ key later, IsRegistered after key later →
      (later.session.sessionPubkey ≠ pubkey ∧
        ∃ account, IsRegistered before key account ∧ Continues account later) ∨
      (later.session.sessionPubkey = pubkey ∧ call.target = some key) := by
    intro key later hlater
    rcases registered_origin (hchange key) hlater with
      ⟨account, haccount, hcontinues⟩ | ⟨hwritten, htarget⟩
    · refine .inl ⟨?_, account, haccount, hcontinues⟩
      rintro rfl
      rw [hcontinues.sessionPubkey] at hfresh
      exact hfresh (hcovers.known key account haccount)
    · exact .inr ⟨Option.some.inj (hwritten.symm.trans hregisters), htarget⟩
  constructor
  case known =>
    intro key later hlater
    rw [hpubkeys, List.mem_cons]
    rcases horigin key later hlater with
      ⟨-, account, haccount, hcontinues⟩ | ⟨hwritten, -⟩
    · rw [hcontinues.sessionPubkey]
      exact .inr (hcovers.known key account haccount)
    · exact .inl hwritten
  case unique =>
    intro key later other otherLater hlater hother hsame
    rcases horigin key later hlater with
      ⟨hold, account, haccount, hcontinues⟩ | ⟨hwritten, htarget⟩
    · rcases horigin other otherLater hother with
        ⟨-, otherAccount, hotherAccount, hotherContinues⟩ | ⟨hotherWritten, -⟩
      · rw [hcontinues.sessionPubkey, hotherContinues.sessionPubkey] at hsame
        exact hcovers.unique key account other otherAccount haccount
          hotherAccount hsame
      · exact absurd (hsame.trans hotherWritten) hold
    · rcases horigin other otherLater hother with
        ⟨hold, -⟩ | ⟨-, hotherTarget⟩
      · exact absurd (hsame.symm.trans hwritten) hold
      · exact Option.some.inj (htarget.symm.trans hotherTarget)
  case acceptedKnown =>
    rw [hpubkeys, hvouchers]
    exact fun voucher hmem =>
      List.mem_cons_of_mem _ (hcovers.acceptedKnown voucher hmem)
  case covered =>
    rw [hvouchers]
    intro voucher hmem key later hlater hkey
    rcases horigin key later hlater with
      ⟨-, account, haccount, hcontinues⟩ | ⟨hwritten, -⟩
    · rw [hcontinues.sessionPubkey] at hkey
      exact le_trans (hcovers.covered voucher hmem key account haccount hkey)
        (frontier_mono hcontinues)
    · refine absurd (hcovers.acceptedKnown voucher hmem) ?_
      rw [← hkey, hwritten]
      exact hfresh
  case increasing =>
    rw [hvouchers]
    exact hcovers.increasing

/-- Registered accounts that only continue keep the invariant. -/
theorem FrontierCovers.keep (hcovers : FrontierCovers trace before)
    (horigin : ∀ key later, IsRegistered after key later →
      ∃ account, IsRegistered before key account ∧ Continues account later) :
    FrontierCovers trace after := by
  constructor
  case known =>
    intro key later hlater
    obtain ⟨account, haccount, hcontinues⟩ := horigin key later hlater
    rw [hcontinues.sessionPubkey]
    exact hcovers.known key account haccount
  case unique =>
    intro key later other otherLater hlater hother hsame
    obtain ⟨account, haccount, hcontinues⟩ := horigin key later hlater
    obtain ⟨otherAccount, hotherAccount, hotherContinues⟩ :=
      horigin other otherLater hother
    rw [hcontinues.sessionPubkey, hotherContinues.sessionPubkey] at hsame
    exact hcovers.unique key account other otherAccount haccount hotherAccount
      hsame
  case acceptedKnown => exact hcovers.acceptedKnown
  case covered =>
    intro voucher hmem key later hlater hkey
    obtain ⟨account, haccount, hcontinues⟩ := horigin key later hlater
    rw [hcontinues.sessionPubkey] at hkey
    exact le_trans (hcovers.covered voucher hmem key account haccount hkey)
      (frontier_mono hcontinues)
  case increasing => exact hcovers.increasing

/-- A call that registers no key and presents no voucher adds nothing to the
history. -/
theorem FrontierCovers.skip {latest : Accepted State Call}
    (hcovers : FrontierCovers trace after)
    (hregisters : registeredPubkey latest = none)
    (hvoucher : acceptedVoucher latest = none) :
    FrontierCovers (latest :: trace) after := by
  have hpubkeys : registeredPubkeys (latest :: trace) =
      registeredPubkeys trace := List.filterMap_cons_none hregisters
  have hvouchers : acceptedVouchers (latest :: trace) =
      acceptedVouchers trace := List.filterMap_cons_none hvoucher
  constructor
  case known =>
    rw [hpubkeys]
    exact hcovers.known
  case unique => exact hcovers.unique
  case acceptedKnown =>
    rw [hpubkeys, hvouchers]
    exact hcovers.acceptedKnown
  case covered =>
    rw [hvouchers]
    exact hcovers.covered
  case increasing =>
    rw [hvouchers]
    exact hcovers.increasing

/-- An accepted voucher was above every amount accepted under its key, and is
the new frontier of the one account that holds the key. -/
theorem FrontierCovers.accept (hbefore : FrontierCovers trace before)
    (hafter : FrontierCovers trace after)
    (hregisters : registeredPubkey ⟨before, call, after⟩ = none)
    {presented : PresentedVoucher} (hvoucher : call.voucher = some presented)
    {account later : SessionAccount}
    (hadvanced : Advanced ⟨before, call, after⟩ presented account later) :
    FrontierCovers (⟨before, call, after⟩ :: trace) after := by
  have hpubkeys : registeredPubkeys (⟨before, call, after⟩ :: trace) =
      registeredPubkeys trace := List.filterMap_cons_none hregisters
  have haccepted : acceptedVoucher ⟨before, call, after⟩ =
      some ⟨account.session.sessionPubkey, presented.payload⟩ := by
    simp only [acceptedVoucher, hvoucher, Option.bind_some, hadvanced.beforeAt,
      Option.map_some]
  have hvouchers : acceptedVouchers (⟨before, call, after⟩ :: trace) =
      ⟨account.session.sessionPubkey, presented.payload⟩ ::
        acceptedVouchers trace := List.filterMap_cons_some haccepted
  have haccount : IsRegistered before presented.session account :=
    ⟨hadvanced.beforeAt, hadvanced.registered⟩
  have hlater : IsRegistered after presented.session later := by
    refine ⟨hadvanced.afterAt, ?_⟩
    rw [hadvanced.continues.version]
    exact hadvanced.registered
  constructor
  case known =>
    rw [hpubkeys]
    exact hafter.known
  case unique => exact hafter.unique
  case acceptedKnown =>
    rw [hpubkeys, hvouchers, List.forall_mem_cons]
    exact ⟨hbefore.known _ account haccount, hafter.acceptedKnown⟩
  case covered =>
    rw [hvouchers, List.forall_mem_cons]
    refine ⟨?_, hafter.covered⟩
    intro key holder hholder hkey
    have hsame : key = presented.session := by
      apply hafter.unique key holder presented.session later hholder hlater
      rw [hkey, hadvanced.continues.sessionPubkey]
    subst hsame
    obtain rfl := Option.some.inj (hholder.1.symm.trans hadvanced.afterAt)
    exact le_of_eq hadvanced.frontier_eq.symm
  case increasing =>
    rw [hvouchers, List.pairwise_cons]
    refine ⟨?_, hafter.increasing⟩
    intro earlier hearlier hkey
    exact lt_of_le_of_lt
      (hbefore.covered earlier hearlier _ account haccount hkey)
      hadvanced.aboveFrontier

theorem acceptedVoucher_of_registers {pubkey : FixedBytes 32}
    {accepted : Accepted State Call}
    (hregisters : registeredPubkey accepted = some pubkey) :
    acceptedVoucher accepted = none := by
  obtain ⟨before, call, after⟩ := accepted
  cases call <;> first | rfl | cases hregisters

/-- The step lemma. -/
theorem frontierCovers_step (hcovers : FrontierCovers trace before)
    (hstep : step runtime before call = .ok after)
    (hfresh : FreshPubkey trace ⟨before, call, after⟩) :
    FrontierCovers (⟨before, call, after⟩ :: trace) after := by
  have hchange := session_change (step_change hstep)
  cases hregisters : registeredPubkey ⟨before, call, after⟩ with
  | some pubkey =>
      exact hcovers.register hchange (acceptedVoucher_of_registers hregisters)
        hregisters (hfresh pubkey hregisters)
  | none =>
      have hafter : FrontierCovers trace after := by
        apply hcovers.keep
        intro key later hlater
        rcases registered_origin (hchange key) hlater with
          hkept | ⟨hwritten, -⟩
        · exact hkept
        · rw [hregisters] at hwritten
          cases hwritten
      cases hvoucher : call.voucher with
      | none => exact hafter.skip hregisters (by simp [acceptedVoucher, hvoucher])
      | some presented =>
          obtain ⟨account, later, hadvanced⟩ := advanced_of_step hvoucher hstep
          exact hcovers.accept hafter hregisters hvoucher hadvanced

end Steps

/-- The run lemma. -/
theorem frontierCovers_run {start state : State} {trace : Trace}
    (hstart : start.session? = fun _ => none)
    (hrun : Run (system runtime) start trace state)
    (honce : (registeredPubkeys trace).Nodup) : FrontierCovers trace state := by
  refine hrun.history_invariant FrontierCovers (.start hstart) ?_ ?_
    (guarded_freshPubkey honce)
  · intro trace before call after hcovers hstep hfresh
    exact frontierCovers_step hcovers hstep hfresh
  · intro trace before after hcovers hmove
    apply hcovers.keep
    intro key later hlater
    rw [IsRegistered, (environment_views hmove).sessions] at hlater
    exact ⟨later, hlater, .refl later⟩

/-- In a run that registers no session key twice, the amounts accepted under
one key strictly increase, in the order of acceptance and over both terminal
paths, and no signed voucher is accepted twice. -/
theorem vouchers_accepted_once {start state : State} {trace : Trace}
    (hstart : OnlyImages start) (hrun : Run (system runtime) start trace state)
    (honce : (registeredPubkeys trace).Nodup) :
    ((acceptedVouchers trace).map SignedVoucher.signed).Nodup ∧
      (acceptedVouchers trace).Pairwise fun later earlier =>
        later.sessionPubkey = earlier.sessionPubkey →
          earlier.payload.cumulativeAmount < later.payload.cumulativeAmount := by
  have hincreasing := (frontierCovers_run hstart.2.1 hrun honce).increasing
  refine ⟨?_, hincreasing⟩
  rw [List.Nodup, List.pairwise_map]
  refine hincreasing.imp ?_
  intro later earlier hlt hsame
  obtain ⟨hkey, hmessage⟩ := Prod.mk.inj hsame
  have hpayload : later.payload = earlier.payload :=
    voucherMessage_injective hmessage
  have habove := hlt hkey
  rw [hpayload] at habove
  exact lt_irrefl _ habove

section Examples

open DexterVault.Deployment

/-- After the lock the session settles a voucher of 100. -/
def lockedSettledTrace : Trace :=
  ⟨locked, settleTab 100, lockedSettled⟩ :: lockedTrace

theorem lockedSettled_run :
    Run (system sampleRuntime) funded lockedSettledTrace lockedSettled := by
  obtain ⟨-, -, -, -, -, -, hsettle⟩ := sample_steps
  exact locked_run.accept hsettle

theorem vouchers_accepted_once_locked :
    ((acceptedVouchers lockedSettledTrace).map
      SignedVoucher.signed).Nodup :=
  (vouchers_accepted_once Deployment.onlyImages_funded
    lockedSettled_run (by decide +kernel)).1

end Examples

end DexterVault.Replay
