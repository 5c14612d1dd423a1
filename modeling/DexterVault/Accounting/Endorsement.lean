import DexterVault.Accounting.Sessions

/-!
# What one endorsement pays

The passkey endorses a registration message once, and the message names a cap.
A payment belongs to the message whose registration of the session account came
last.  As long as no message is registered twice and no voucher takes the two
meters of a session together above its cap, everything paid under one message
stays within the cap the message names, over the whole run.
-/

namespace DexterVault.Endorsement

open DexterVault.Machine
open DexterVault.Framing
open DexterVault.Accounts
open DexterVault.Execution
open DexterVault.Transition
open DexterVault.Session
open DexterVault.Program
open DexterVault.Sessions

variable {runtime : Runtime} {key : Pubkey}

/-! ## Registrations and payments of a trace -/

/-- An accepted registration: the message the passkey signed, the account it
wrote and the cap it names. -/
structure Endorsed where
  message : Bytes
  session : Pubkey
  maxAmount : U64
  deriving DecidableEq

def endorsedBy (accepted : Accepted State Call) : Option Endorsed :=
  match accepted.call with
  | .registerSessionKey _ accounts args =>
      some ⟨buildRegistrationMessage programId accounts.vault args,
        accounts.session, args.maxAmount⟩
  | _ => none

def endorsements (trace : Trace) : List Endorsed :=
  trace.filterMap endorsedBy

/-- The message that established the session now at `key`: the one of the last
registration there, or none when the session was carried over from a V5
vault. -/
def messageAt (key : Pubkey) : Trace → Option Bytes
  | [] => none
  | latest :: earlier =>
      match latest.call with
      | .registerSessionKey _ accounts args =>
          if accounts.session = key then
            some (buildRegistrationMessage programId accounts.vault args)
          else
            messageAt key earlier
      | .migrateV5ToV6WithSession _ accounts _ =>
          if accounts.session = key then none else messageAt key earlier
      | _ => messageAt key earlier

/-- Everything settled or locked in sessions that `message` established. -/
def paidUnder (message : Bytes) : Trace → ℕ
  | [] => 0
  | latest :: earlier =>
      (if latest.call.voucher.any fun voucher =>
          messageAt voucher.session earlier = some message then
        paid latest
      else
        0) + paidUnder message earlier

/-- The message of a registration has not been accepted before. -/
def FreshMessage (earlier : Trace) (latest : Accepted State Call) : Prop :=
  ∀ endorsed ∈ endorsedBy latest,
    endorsed.message ∉ (endorsements earlier).map Endorsed.message

/-- The voucher leaves the two meters of its session together within the
cap. -/
def WithinRemaining (accepted : Accepted State Call) : Prop :=
  ∀ voucher ∈ accepted.call.voucher,
    ∀ account ∈ accepted.before.session? voucher.session,
      voucher.mark.amount +
          (meters account.session).read voucher.path.other ≤
        account.session.maxAmount.val

/-- No registration message is accepted twice, and every accepted voucher is
within what the session has left. -/
def EndorsedOnce (earlier : Trace) (latest : Accepted State Call) : Prop :=
  FreshMessage earlier latest ∧ WithinRemaining latest

instance (earlier : Trace) (latest : Accepted State Call) :
    Decidable (FreshMessage earlier latest) :=
  inferInstanceAs (Decidable (∀ endorsed ∈ endorsedBy latest, _))

instance (accepted : Accepted State Call) :
    Decidable (WithinRemaining accepted) :=
  inferInstanceAs (Decidable (∀ voucher ∈ accepted.call.voucher,
    ∀ account ∈ accepted.before.session? voucher.session, _))

instance (earlier : Trace) (latest : Accepted State Call) :
    Decidable (EndorsedOnce earlier latest) :=
  inferInstanceAs (Decidable (_ ∧ _))

/-! ## The invariant -/

/-- Everything paid under a message stays within its cap, and for the message
of a session that is still registered it is the sum of the two meters. -/
structure WithinEndorsements (trace : Trace) (state : State) : Prop where
  distinct : ((endorsements trace).map Endorsed.message).Nodup
  unknown : ∀ message ∉ (endorsements trace).map Endorsed.message,
    paidUnder message trace = 0
  bounded : ∀ endorsed ∈ endorsements trace,
    paidUnder endorsed.message trace ≤ endorsed.maxAmount.val
  current : ∀ key account message, IsRegistered state key account →
    messageAt key trace = some message →
    ⟨message, key, account.session.maxAmount⟩ ∈ endorsements trace ∧
      paidUnder message trace =
        (meters account.session).left + (meters account.session).right

theorem endorsed_unique {endorsed : List Endorsed}
    (hdistinct : (endorsed.map Endorsed.message).Nodup) {left right : Endorsed}
    (hleft : left ∈ endorsed) (hright : right ∈ endorsed)
    (hmessage : left.message = right.message) : left = right :=
  List.inj_on_of_nodup_map hdistinct hleft hright hmessage

section Steps

variable {trace : Trace} {before after : State} {call : Call}

theorem paidUnder_of_no_voucher {latest : Accepted State Call}
    (hvoucher : latest.call.voucher = none) (message : Bytes) :
    paidUnder message (latest :: trace) = paidUnder message trace := by
  simp [paidUnder, hvoucher]

theorem paidUnder_of_voucher {latest : Accepted State Call}
    {voucher : PresentedVoucher} (hvoucher : latest.call.voucher = some voucher)
    (message : Bytes) :
    paidUnder message (latest :: trace) =
      (if messageAt voucher.session trace = some message then paid latest
        else 0) + paidUnder message trace := by
  simp [paidUnder, hvoucher]

theorem messageAt_register {context : Context} {accounts : RegisterSessionKey}
    {args : RegisterSessionKeyArgs} (key : Pubkey) :
    messageAt key
        (⟨before, .registerSessionKey context accounts args, after⟩ :: trace) =
      if accounts.session = key then
        some (buildRegistrationMessage programId accounts.vault args)
      else
        messageAt key trace := rfl

theorem messageAt_of_not_endorsed {latest : Accepted State Call}
    (hendorsed : endorsedBy latest = none) {key : Pubkey} {message : Bytes}
    (hmessage : messageAt key (latest :: trace) = some message) :
    messageAt key trace = some message := by
  obtain ⟨before, call, after⟩ := latest
  cases call with
  | registerSessionKey => cases hendorsed
  | migrateV5ToV6WithSession =>
      simp only [messageAt] at hmessage
      split at hmessage
      · cases hmessage
      · exact hmessage
  | _ => exact hmessage

/-- Nothing registered and nothing paid: the sessions that still carry an
endorsement have the meters they had. -/
theorem WithinEndorsements.keep {later : Trace}
    (hwithin : WithinEndorsements trace before)
    (hendorsements : endorsements later = endorsements trace)
    (hpaid : ∀ message, paidUnder message later = paidUnder message trace)
    (hcurrent : ∀ key account message, IsRegistered after key account →
      messageAt key later = some message →
      messageAt key trace = some message ∧
        ∃ earlier, IsRegistered before key earlier ∧
          Continues earlier account ∧
          meters account.session = meters earlier.session) :
    WithinEndorsements later after := by
  constructor
  case distinct =>
    rw [hendorsements]
    exact hwithin.distinct
  case unknown =>
    intro message hmessage
    rw [hendorsements] at hmessage
    rw [hpaid]
    exact hwithin.unknown message hmessage
  case bounded =>
    intro endorsed hmem
    rw [hendorsements] at hmem
    rw [hpaid]
    exact hwithin.bounded endorsed hmem
  case current =>
    intro key account message haccount hmessage
    obtain ⟨hearlier, earlier, hregistered, hcontinues, hmeters⟩ :=
      hcurrent key account message haccount hmessage
    rw [hendorsements, hpaid, hcontinues.maxAmount, hmeters]
    exact hwithin.current key earlier message hregistered hearlier

/-- A registration under a fresh message starts a new total at zero. -/
theorem WithinEndorsements.register {context : Context}
    {accounts : RegisterSessionKey} {args : RegisterSessionKeyArgs}
    (hwithin : WithinEndorsements trace before)
    (hfresh : FreshMessage trace
      ⟨before, .registerSessionKey context accounts args, after⟩)
    (horigin : ∀ key later, IsRegistered after key later →
      Origin before key later (.registerSessionKey context accounts args))
    (hwritten : ∀ account, after.session? accounts.session = some account →
      account.session = args.registration) :
    WithinEndorsements
      (⟨before, .registerSessionKey context accounts args, after⟩ :: trace)
      after := by
  have hendorsements : endorsements
      (⟨before, .registerSessionKey context accounts args, after⟩ :: trace) =
        ⟨buildRegistrationMessage programId accounts.vault args,
          accounts.session, args.maxAmount⟩ :: endorsements trace := rfl
  have hnew := hfresh _ rfl
  constructor
  case distinct =>
    rw [hendorsements, List.map_cons, List.nodup_cons]
    exact ⟨hnew, hwithin.distinct⟩
  case unknown =>
    intro message hmessage
    rw [paidUnder_of_no_voucher rfl]
    apply hwithin.unknown
    rw [hendorsements, List.map_cons, List.mem_cons, not_or] at hmessage
    exact hmessage.2
  case bounded =>
    intro endorsed hmem
    rw [paidUnder_of_no_voucher rfl]
    rw [hendorsements, List.mem_cons] at hmem
    rcases hmem with rfl | hmem
    · rw [hwithin.unknown _ hnew]
      exact Nat.zero_le _
    · exact hwithin.bounded endorsed hmem
  case current =>
    intro key later message hlater hmessage
    rw [paidUnder_of_no_voucher rfl, hendorsements, List.mem_cons]
    rw [messageAt_register] at hmessage
    split at hmessage
    · next hkey =>
        subst hkey
        obtain rfl := Option.some.inj hmessage
        rw [hwithin.unknown _ hnew, hwritten later hlater.1]
        exact ⟨.inl rfl, rfl⟩
    · next hkey =>
        cases horigin key later hlater with
        | kept haccount hcontinues hmeters =>
            obtain ⟨hmem, hpaid⟩ :=
              hwithin.current key _ message haccount hmessage
            rw [hcontinues.maxAmount, hmeters fun _ hvoucher => by cases hvoucher]
            exact ⟨.inr hmem, hpaid⟩
        | registered hother => exact absurd hother hkey

/-- An accepted voucher adds its payment to the message that established its
session, and to no other. -/
theorem WithinEndorsements.pay (hwithin : WithinEndorsements trace before)
    {voucher : PresentedVoucher} (hvoucher : call.voucher = some voucher)
    (hendorsed : endorsedBy ⟨before, call, after⟩ = none)
    (horigin : ∀ key later, IsRegistered after key later →
      Origin before key later call)
    {account later : SessionAccount}
    (hadvanced : Advanced ⟨before, call, after⟩ voucher account later)
    (hremaining : WithinRemaining ⟨before, call, after⟩) :
    WithinEndorsements (⟨before, call, after⟩ :: trace) after := by
  have hendorsements : endorsements (⟨before, call, after⟩ :: trace) =
      endorsements trace := List.filterMap_cons_none hendorsed
  have hpaidUnder : ∀ message,
      paidUnder message (⟨before, call, after⟩ :: trace) =
        (if messageAt voucher.session trace = some message then
          paid ⟨before, call, after⟩ else 0) + paidUnder message trace :=
    paidUnder_of_voucher hvoucher
  have haccount : IsRegistered before voucher.session account :=
    ⟨hadvanced.beforeAt, hadvanced.registered⟩
  have habove : (meters account.session).frontier < voucher.mark.amount := by
    rw [← frontier_val]
    exact hadvanced.aboveFrontier
  have hsum : paid ⟨before, call, after⟩ +
      ((meters account.session).left + (meters account.session).right) =
        (meters later.session).left + (meters later.session).right := by
    rw [hadvanced.payment, hadvanced.meters]
    exact Odometer.Meters.payment_add_sum habove
  have hlimit : (meters later.session).left + (meters later.session).right ≤
      account.session.maxAmount.val := by
    rw [hadvanced.meters, Odometer.Meters.advance_sum]
    exact hremaining voucher hvoucher account hadvanced.beforeAt
  constructor
  case distinct =>
    rw [hendorsements]
    exact hwithin.distinct
  case unknown =>
    intro message hmessage
    rw [hendorsements] at hmessage
    rw [hpaidUnder, hwithin.unknown message hmessage]
    split
    · next hestablished =>
        have hmem := (hwithin.current _ account message haccount
          hestablished).1
        exact absurd (List.mem_map_of_mem hmem) hmessage
    · rfl
  case bounded =>
    intro endorsed hmem
    rw [hendorsements] at hmem
    rw [hpaidUnder]
    split
    · next hestablished =>
        obtain ⟨hcurrent, htotal⟩ := hwithin.current _ account endorsed.message
          haccount hestablished
        have hsame := endorsed_unique hwithin.distinct hmem hcurrent rfl
        rw [htotal, hsum, hsame]
        exact hlimit
    · rw [Nat.zero_add]
      exact hwithin.bounded endorsed hmem
  case current =>
    intro key holder message hholder hmessage
    have hearlier := messageAt_of_not_endorsed hendorsed hmessage
    rw [hendorsements, hpaidUnder]
    by_cases hkey : voucher.session = key
    · subst hkey
      obtain rfl := Option.some.inj (hadvanced.afterAt.symm.trans hholder.1)
      obtain ⟨hmem, htotal⟩ :=
        hwithin.current _ account message haccount hearlier
      rw [if_pos hearlier, htotal, hsum, hadvanced.continues.maxAmount]
      exact ⟨hmem, rfl⟩
    · cases horigin key holder hholder with
      | kept hkept hcontinues hmeters =>
          obtain ⟨hmem, htotal⟩ :=
            hwithin.current key _ message hkept hearlier
          have hother : messageAt voucher.session trace ≠ some message := by
            intro hsame
            have hcurrent := (hwithin.current _ account message haccount
              hsame).1
            have heq := endorsed_unique hwithin.distinct hcurrent hmem rfl
            exact hkey (congrArg Endorsed.session heq)
          rw [if_neg hother, Nat.zero_add, hcontinues.maxAmount, hmeters]
          · exact ⟨hmem, htotal⟩
          · intro presented hpresented
            obtain rfl := Option.some.inj (hvoucher.symm.trans hpresented)
            exact hkey
      | registered => cases hvoucher
      | carried => cases hvoucher

/-- The step lemma. -/
theorem withinEndorsements_step (hwithin : WithinEndorsements trace before)
    (hstep : step runtime before call = .ok after)
    (honce : EndorsedOnce trace ⟨before, call, after⟩) :
    WithinEndorsements (⟨before, call, after⟩ :: trace) after := by
  have hchange := session_change (step_change hstep)
  have horigin : ∀ key later, IsRegistered after key later →
      Origin before key later call := fun key _ hlater =>
    (hchange key).origin hlater
  cases hvoucher : call.voucher with
  | some voucher =>
      obtain ⟨account, later, hadvanced⟩ := advanced_of_step hvoucher hstep
      have hendorsed : endorsedBy ⟨before, call, after⟩ = none := by
        cases call <;> first | rfl | cases hvoucher
      exact hwithin.pay hvoucher hendorsed horigin hadvanced honce.2
  | none =>
      cases hendorsed : endorsedBy ⟨before, call, after⟩ with
      | some endorsed =>
          cases call with
          | registerSessionKey context accounts args =>
              refine hwithin.register honce.1 horigin ?_
              intro account haccount
              cases hchange accounts.session with
              | same htarget => exact absurd rfl htarget
              | swept hother => exact absurd rfl hother
              | registered _ _ hafter =>
                  obtain rfl := Option.some.inj (hafter.symm.trans haccount)
                  exact writtenSession_session _ _ _ _
          | _ => cases hendorsed
      | none =>
          refine hwithin.keep (List.filterMap_cons_none hendorsed)
            (paidUnder_of_no_voucher hvoucher) ?_
          intro key account message haccount hmessage
          refine ⟨messageAt_of_not_endorsed hendorsed hmessage, ?_⟩
          cases horigin key account haccount with
          | kept hkept hcontinues hmeters =>
              refine ⟨_, hkept, hcontinues, hmeters ?_⟩
              intro voucher hpresented
              rw [hvoucher] at hpresented
              cases hpresented
          | registered => cases hendorsed
          | carried hkey =>
              simp only [messageAt, if_pos hkey] at hmessage
              cases hmessage

end Steps

theorem withinEndorsements_start {state : State}
    (hnone : state.session? = fun _ => none) : WithinEndorsements [] state := by
  constructor
  case distinct => exact List.nodup_nil
  case unknown => exact fun _ _ => rfl
  case bounded => simp [endorsements]
  case current =>
    rintro key account message ⟨haccount, -⟩
    rw [hnone] at haccount
    cases haccount

/-- The run lemma. -/
theorem withinEndorsements_run {start state : State} {trace : Trace}
    (hstart : start.session? = fun _ => none)
    (hrun : Run (system runtime) start trace state)
    (honce : Guarded EndorsedOnce trace) : WithinEndorsements trace state := by
  refine hrun.history_invariant WithinEndorsements
    (withinEndorsements_start hstart) ?_ ?_ honce
  · intro trace before call after hwithin hstep hmeets
    exact withinEndorsements_step hwithin hstep hmeets
  · intro trace before after hwithin hmove
    refine hwithin.keep rfl (fun _ => rfl) ?_
    intro key account message haccount hmessage
    rw [IsRegistered, (environment_views hmove).sessions] at haccount
    exact ⟨hmessage, account, haccount, .refl account, rfl⟩

/-- In a run that accepts no registration message twice, and no voucher beyond
what its session has left, each message pays at most the cap it names. -/
theorem paidUnder_le_maxAmount {start state : State} {trace : Trace}
    (hstart : OnlyImages start) (hrun : Run (system runtime) start trace state)
    (honce : Guarded EndorsedOnce trace) :
    ∀ endorsed ∈ endorsements trace,
      paidUnder endorsed.message trace ≤ endorsed.maxAmount.val :=
  (withinEndorsements_run hstart.2.1 hrun honce).bounded

theorem paidUnder_le_maxAmount_settled :
    paidUnder (Deployment.registrationMessage Deployment.seller 100)
      settledTrace ≤ 100 :=
  paidUnder_le_maxAmount Deployment.onlyImages_funded settled_run
    (by decide +kernel)
    ⟨Deployment.registrationMessage Deployment.seller 100,
      Deployment.sellerSession, 100⟩ (by decide +kernel)

section Examples

open DexterVault.Deployment

/-- The registration is submitted again after the settlement, and the session
settles the same voucher once more. -/
def replayedTrace : Trace :=
  ⟨registered, settleTab 60, settled⟩ ::
    ⟨settled, registerFor seller sellerSession 100 [], registered⟩ ::
    settledTrace

theorem replayed_run :
    Run (system sampleRuntime) funded replayedTrace settled := by
  obtain ⟨-, -, -, hsettle, hregister, -⟩ := sample_steps
  have hagain : Run (system sampleRuntime) funded
      (⟨settled, registerFor seller sellerSession 100 [], registered⟩ ::
        settledTrace) registered := settled_run.accept hregister
  exact hagain.accept hsettle

/-- The registration is accepted a second time, with the same assertion, and
the meters restart at zero: a cap of 100 pays 60 twice. -/
theorem registration_replayed :
    Run (system Deployment.sampleRuntime) Deployment.funded
        replayedTrace Deployment.settled ∧
      paidUnder (Deployment.registrationMessage Deployment.seller 100)
        replayedTrace = 120 ∧
      ¬ ∀ endorsed ∈ endorsements replayedTrace,
        paidUnder endorsed.message replayedTrace ≤
          endorsed.maxAmount.val :=
  ⟨replayed_run, by decide +kernel, by decide +kernel⟩

end Examples

end DexterVault.Endorsement
