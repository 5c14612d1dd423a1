import DexterVault.Accounting.Sessions

/-!
# What one registration pays

The vouchers accepted on a session between its registration and the next
revocation, registration or sweep are a history of marks on a two-sided
odometer.  The payments of both terminal paths are the payments of that
history, so they stay below the highest accepted amount exactly when only one
of the two paths is ever used.
-/

namespace DexterVault.Meters

open DexterVault.Machine
open DexterVault.Framing
open DexterVault.Accounts
open DexterVault.Execution
open DexterVault.Transition
open DexterVault.Session
open DexterVault.Gate
open DexterVault.Voucher
open DexterVault.Program
open DexterVault.Sessions

variable {runtime : Runtime} {key : Pubkey}

/-! ## The marks of a trace -/

/-- The mark an accepted call makes on the session account at `key`. -/
def markOf (key : Pubkey) (accepted : Accepted State Call) :
    Option Odometer.Mark :=
  (accepted.call.voucher.filter fun voucher => voucher.session = key).map
    PresentedVoucher.mark

def marks (key : Pubkey) (trace : Trace) : List Odometer.Mark :=
  trace.filterMap (markOf key)

/-- Everything paid out of the session account at `key`. -/
def paidBy (key : Pubkey) : Trace → ℕ
  | [] => 0
  | latest :: earlier =>
      (if (markOf key latest).isSome then paid latest else 0) +
        paidBy key earlier

def meterAt (state : State) (key : Pubkey) (side : Odometer.Side) : ℕ :=
  (state.session? key).elim 0 fun account => (meters account.session).read side

/-- The call pays for this unit of the session's range, on this path: the unit
lies between the meter of the path and the accepted amount. -/
def PaysFor (key : Pubkey) (side : Odometer.Side) (point : ℕ)
    (accepted : Accepted State Call) : Prop :=
  ∃ mark ∈ markOf key accepted, mark.side = side ∧
    meterAt accepted.before key side < point ∧ point ≤ mark.amount

/-- A voucher on the session is accepted only while the meter of the other path
is still at zero. -/
def OtherMeterUnused (key : Pubkey) (accepted : Accepted State Call) : Prop :=
  ∀ mark ∈ markOf key accepted,
    meterAt accepted.before key mark.side.other = 0

instance (key : Pubkey) (accepted : Accepted State Call) :
    Decidable (OtherMeterUnused key accepted) :=
  inferInstanceAs (Decidable (∀ mark ∈ markOf key accepted, _))

/-- Tab settlements and claims together stay within the highest accepted
amount and the cap, and no unit is paid for on both paths. -/
structure NoDoublePayment (key : Pubkey) (cap : U64) (trace : Trace) : Prop where
  paid_le_highest : paidBy key trace ≤ Odometer.highest (marks key trace)
  highest_le_cap : Odometer.highest (marks key trace) ≤ cap.val
  disjoint : ∀ point,
    ¬ ((∃ accepted ∈ trace, PaysFor key .left point accepted) ∧
      ∃ accepted ∈ trace, PaysFor key .right point accepted)

theorem markOf_eq_some_iff {accepted : Accepted State Call}
    {mark : Odometer.Mark} :
    markOf key accepted = some mark ↔
      ∃ voucher, accepted.call.voucher = some voucher ∧
        voucher.session = key ∧ voucher.mark = mark := by
  simp [markOf, Option.filter_eq_some_iff, and_assoc]

theorem marks_cons_none {latest : Accepted State Call} {earlier : Trace}
    (hnone : markOf key latest = none) :
    marks key (latest :: earlier) = marks key earlier :=
  List.filterMap_cons_none hnone

theorem marks_cons_some {latest : Accepted State Call} {earlier : Trace}
    {mark : Odometer.Mark} (hsome : markOf key latest = some mark) :
    marks key (latest :: earlier) = mark :: marks key earlier :=
  List.filterMap_cons_some hsome

theorem not_paysFor_of_none {accepted : Accepted State Call}
    {side : Odometer.Side} {point : ℕ} (hnone : markOf key accepted = none) :
    ¬ PaysFor key side point accepted := by
  rintro ⟨mark, hmark, -⟩
  rw [hnone] at hmark
  cases hmark

theorem otherMeterUnused_of_none {accepted : Accepted State Call}
    (hnone : markOf key accepted = none) : OtherMeterUnused key accepted := by
  intro mark hmark
  rw [hnone] at hmark
  cases hmark

/-! ## The session account follows the odometer -/

/-- The session account at `key` holds the meters of the marks made since its
registration, and the trace has paid what these marks pay. -/
structure Follows (key : Pubkey) (cap : U64) (trace : Trace) (state : State) :
    Prop where
  account : ∃ account, state.session? key = some account ∧
    account.version ≠ 0 ∧ account.session.maxAmount = cap ∧
    meters account.session =
      Odometer.metersAfter Odometer.Meters.zero (marks key trace)
  accepted : Odometer.Accepted Odometer.Meters.zero (marks key trace)
  withinCap : ∀ mark ∈ marks key trace, mark.amount ≤ cap.val
  paid : paidBy key trace =
    Odometer.totalPaid Odometer.Meters.zero (marks key trace)
  covers : ∀ side point,
    (∃ accepted ∈ trace, PaysFor key side point accepted) ↔
      Odometer.Covers Odometer.Meters.zero side point (marks key trace)
  oneSided : Guarded (fun _ => OtherMeterUnused key) trace ↔
    Odometer.OneSided Odometer.Meters.zero (marks key trace)

/-- A call that makes no mark and does not end the epoch leaves the meters of a
registered account alone. -/
theorem meters_unmarked {before after : State} {call : Call}
    {account : SessionAccount}
    (hchange : SessionChange runtime before key after call)
    (hnone : markOf key ⟨before, call, after⟩ = none)
    (hepoch : ¬ EndsEpoch key ⟨before, call, after⟩)
    (haccount : before.session? key = some account)
    (hregistered : account.version ≠ 0) :
    ∃ later, after.session? key = some later ∧ Continues account later ∧
      meters later.session = meters account.session := by
  obtain ⟨later, hlater, hcontinues⟩ :=
    hchange.continues hepoch haccount hregistered
  refine ⟨later, hlater, hcontinues, ?_⟩
  cases hchange with
  | same _ hafter =>
      rw [hafter, haccount] at hlater
      rw [Option.some.inj hlater]
  | opened hopened hafter =>
      obtain rfl := Option.some.inj (hopened.sessionAt.symm.trans haccount)
      obtain rfl := Option.some.inj (hafter.symm.trans hlater)
      rfl
  | settled hkey => simp [markOf, Call.voucher, hkey] at hnone
  | locked hkey => simp [markOf, Call.voucher, hkey] at hnone
  | registered hkey => exact absurd (.inl hkey) hepoch
  | swept _ hexpired => exact absurd (.inr hexpired) hepoch
  | revoked hkey => exact absurd hkey hepoch
  | closed _ _ _ hafter =>
      rw [hafter] at hlater
      cases hlater
  | carried hkey hmigrated =>
      have hvacant : before.session? key = none := by
        rw [← hkey]
        exact State.view_of_lookup_none hmigrated.vacant
      rw [hvacant] at haccount
      cases haccount

section Steps

variable {cap : U64} {trace : Trace} {before after : State} {call : Call}

theorem Follows.unmarked (hfollows : Follows key cap trace before)
    (hchange : SessionChange runtime before key after call)
    (hepoch : ¬ EndsEpoch key ⟨before, call, after⟩)
    (hnone : markOf key ⟨before, call, after⟩ = none) :
    Follows key cap (⟨before, call, after⟩ :: trace) after := by
  obtain ⟨account, haccount, hregistered, hcap, hmeters⟩ := hfollows.account
  obtain ⟨later, hlater, hcontinues, hsame⟩ :=
    meters_unmarked hchange hnone hepoch haccount hregistered
  have hmarks : marks key (⟨before, call, after⟩ :: trace) = marks key trace :=
    marks_cons_none hnone
  constructor
  case account =>
    refine ⟨later, hlater, ?_, ?_, ?_⟩
    · rw [hcontinues.version]
      exact hregistered
    · rw [hcontinues.maxAmount, hcap]
    · rw [hmarks, hsame, hmeters]
  case accepted =>
    rw [hmarks]
    exact hfollows.accepted
  case withinCap =>
    rw [hmarks]
    exact hfollows.withinCap
  case paid =>
    rw [hmarks, paidBy, hnone, ← hfollows.paid]
    simp
  case covers =>
    intro side point
    rw [hmarks, ← hfollows.covers]
    simp [not_paysFor_of_none hnone]
  case oneSided =>
    rw [hmarks, ← hfollows.oneSided, Guarded]
    exact and_iff_right (otherMeterUnused_of_none hnone)

/-- The step lemma: an accepted voucher is an accepted mark, and both sides
read the same meters before it. -/
theorem Follows.marked (hfollows : Follows key cap trace before)
    {voucher : PresentedVoucher} (hvoucher : call.voucher = some voucher)
    (hkey : voucher.session = key)
    (hchange : SessionChange runtime before key after call) :
    Follows key cap (⟨before, call, after⟩ :: trace) after := by
  subst hkey
  obtain ⟨account, later, hadvanced⟩ := hchange.advanced hvoucher
  obtain ⟨stored, hstored, -, hcap, hmeters⟩ := hfollows.account
  obtain rfl := Option.some.inj (hadvanced.beforeAt.symm.trans hstored)
  have hmark : markOf voucher.session ⟨before, call, after⟩ =
      some voucher.mark :=
    markOf_eq_some_iff.mpr ⟨voucher, hvoucher, rfl, rfl⟩
  have hmarks : marks voucher.session (⟨before, call, after⟩ :: trace) =
      voucher.mark :: marks voucher.session trace := marks_cons_some hmark
  have hmeterAt : ∀ side, meterAt before voucher.session side =
      (Odometer.metersAfter Odometer.Meters.zero
        (marks voucher.session trace)).read side := by
    intro side
    rw [meterAt, hadvanced.beforeAt, Option.elim_some, hmeters]
  have habove : (Odometer.metersAfter Odometer.Meters.zero
      (marks voucher.session trace)).frontier < voucher.mark.amount := by
    rw [← hmeters, ← frontier_val]
    exact hadvanced.aboveFrontier
  constructor
  case account =>
    refine ⟨later, hadvanced.afterAt, ?_, ?_, ?_⟩
    · rw [hadvanced.continues.version]
      exact hadvanced.registered
    · rw [hadvanced.continues.maxAmount, hcap]
    · rw [hmarks, hadvanced.meters, hmeters]
      rfl
  case accepted =>
    rw [hmarks]
    exact ⟨habove, hfollows.accepted⟩
  case withinCap =>
    rw [hmarks, List.forall_mem_cons]
    refine ⟨?_, hfollows.withinCap⟩
    rw [← hcap]
    exact hadvanced.withinCap
  case paid =>
    rw [hmarks, paidBy, hmark, Option.isSome_some, if_pos rfl,
      hadvanced.payment, hmeters, hfollows.paid]
    rfl
  case covers =>
    intro side point
    rw [hmarks, Odometer.Covers, ← hfollows.covers, List.exists_mem_cons_iff,
      PaysFor, hmark]
    simp only [Option.mem_some_iff, exists_eq_left', hmeterAt]
  case oneSided =>
    rw [hmarks, Odometer.OneSided, ← hfollows.oneSided, Guarded,
      OtherMeterUnused, hmark]
    simp only [Option.mem_some_iff, forall_eq', hmeterAt]

theorem follows_step (hfollows : Follows key cap trace before)
    (hstep : step runtime before call = .ok after)
    (hepoch : ¬ EndsEpoch key ⟨before, call, after⟩) :
    Follows key cap (⟨before, call, after⟩ :: trace) after := by
  have hchange := session_change (step_change hstep) key
  cases hmark : markOf key ⟨before, call, after⟩ with
  | none => exact hfollows.unmarked hchange hepoch hmark
  | some mark =>
      obtain ⟨voucher, hvoucher, hkey, -⟩ := markOf_eq_some_iff.mp hmark
      exact hfollows.marked hvoucher hkey hchange

end Steps

/-- A registration starts the odometer at zero. -/
theorem follows_start {before after : State} {context : Context}
    {accounts : RegisterSessionKey} {args : RegisterSessionKeyArgs}
    (hregister : step runtime before
      (.registerSessionKey context accounts args) = .ok after) :
    Follows accounts.session args.maxAmount [] after := by
  have hchange := session_change (step_change hregister) accounts.session
  cases hchange with
  | same htarget => exact absurd rfl htarget
  | swept hother => exact absurd rfl hother
  | @registered _ _ _ _ _ account _ _ _ hregistered hafter =>
      have hstamped : sessionVersionV1 ≠ 0 := by decide
      constructor
      case account =>
        refine ⟨_, hafter, ?_⟩
        unfold writtenSession
        split
        · exact ⟨hstamped, rfl, rfl⟩
        · next hversion => exact ⟨hversion, rfl, rfl⟩
      case accepted => trivial
      case withinCap => simp [marks]
      case paid => rfl
      case covers => simp [marks, Odometer.Covers]
      case oneSided => exact Iff.rfl

theorem follows_run {start state : State} {trace : Trace} {cap : U64}
    (hstart : Follows key cap [] start)
    (hrun : Run (system runtime) start trace state)
    (hepoch : Guarded (fun _ accepted => ¬ EndsEpoch key accepted) trace) :
    Follows key cap trace state := by
  refine hrun.history_invariant (Follows key cap) hstart ?_ ?_ hepoch
  · intro trace before call after hfollows hstep hends
    exact follows_step hfollows hstep hends
  · intro trace before after hfollows hmove
    have hviews := environment_views hmove
    exact { hfollows with
      account := by
        rw [hviews.sessions]
        exact hfollows.account }

/-- Between two registrations of a session account nothing is paid twice
exactly when every voucher is accepted while the meter of the other path is at
zero. -/
theorem noDoublePayment_iff {before start state : State} {context : Context}
    {accounts : RegisterSessionKey} {args : RegisterSessionKeyArgs}
    {trace : Trace}
    (hregister : step runtime before
      (.registerSessionKey context accounts args) = .ok start)
    (hrun : Run (system runtime) start trace state)
    (hepoch : Guarded
      (fun _ accepted => ¬ EndsEpoch accounts.session accepted) trace) :
    NoDoublePayment accounts.session args.maxAmount trace ↔
      Guarded (fun _ => OtherMeterUnused accounts.session) trace := by
  have hfollows := follows_run (follows_start hregister) hrun hepoch
  have haccepted := hfollows.accepted
  have hhighest := Odometer.highest_eq_frontier haccepted
  have hsides := Odometer.oneSided_iff haccepted
  rw [hfollows.oneSided, hsides, ← Odometer.totalPaid_le_frontier_iff haccepted,
    ← hfollows.paid, ← hhighest]
  constructor
  · exact NoDoublePayment.paid_le_highest
  · intro hpaid
    refine ⟨hpaid, Odometer.highest_le hfollows.withinCap, ?_⟩
    simp only [hfollows.covers]
    rw [Odometer.covers_disjoint_iff haccepted,
      ← Odometer.totalPaid_le_frontier_iff haccepted, ← hfollows.paid,
      ← hhighest]
    exact hpaid

theorem noDoublePayment_settled :
    NoDoublePayment Deployment.sellerSession 100
      [⟨Deployment.registered, Deployment.settleTab 60, Deployment.settled⟩] := by
  obtain ⟨-, -, hregister, hsettle, -⟩ := Deployment.sample_steps
  have hsettled : Run (system Deployment.sampleRuntime) Deployment.registered
      [⟨Deployment.registered, Deployment.settleTab 60, Deployment.settled⟩]
      Deployment.settled := .accept .start hsettle
  have hepoch : ¬ EndsEpoch Deployment.sellerSession
      ⟨Deployment.registered, Deployment.settleTab 60, Deployment.settled⟩ := by
    decide +kernel
  have hunused : OtherMeterUnused Deployment.sellerSession
      ⟨Deployment.registered, Deployment.settleTab 60, Deployment.settled⟩ := by
    decide +kernel
  have hiff := noDoublePayment_iff hregister hsettled ⟨hepoch, trivial⟩
  exact hiff.mpr ⟨hunused, trivial⟩

/-- A lock of 60 followed by a settlement of 100 pays 160 under a cap of 100:
the settlement measures its increment from `spent`, which the lock has not
moved. -/
theorem lock_then_settle_pays_twice :
    Run (system Deployment.sampleRuntime) Deployment.funded
        Deployment.registeredTrace Deployment.registered ∧
      Run (system Deployment.sampleRuntime) Deployment.registered
        [⟨Deployment.locked, Deployment.settleTab 100, Deployment.lockedSettled⟩,
          ⟨Deployment.registered, Deployment.lockTab 60, Deployment.locked⟩]
        Deployment.lockedSettled ∧
      paidBy Deployment.sellerSession
        [⟨Deployment.locked, Deployment.settleTab 100, Deployment.lockedSettled⟩,
          ⟨Deployment.registered, Deployment.lockTab 60, Deployment.locked⟩] =
            160 ∧
      ¬ NoDoublePayment Deployment.sellerSession 100
        [⟨Deployment.locked, Deployment.settleTab 100, Deployment.lockedSettled⟩,
          ⟨Deployment.registered, Deployment.lockTab 60, Deployment.locked⟩] := by
  obtain ⟨-, -, -, -, -, hlock, hsettle⟩ := Deployment.sample_steps
  have hlocked : Run (system Deployment.sampleRuntime) Deployment.registered
      [⟨Deployment.registered, Deployment.lockTab 60, Deployment.locked⟩]
      Deployment.locked := .accept .start hlock
  refine ⟨Deployment.registered_run, hlocked.accept hsettle, by decide +kernel, ?_⟩
  intro hnone
  exact absurd hnone.paid_le_highest (by decide +kernel)

end DexterVault.Meters
