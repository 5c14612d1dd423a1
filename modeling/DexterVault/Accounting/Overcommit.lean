import DexterVault.Accounting.SessionCount

/-!
# What the overcommit gate guarantees

Right after a registration the caps of the live sessions of the vault, with
what its pending claims have locked, are covered by the USDC of its wallet.
The gate infers from the count that it has seen every session, so this needs
the count to be exact, and the token account it reads to be the wallet's own.
-/

namespace DexterVault.Overcommit

open Function
open DexterVault.Machine
open DexterVault.Framing
open DexterVault.Accounts
open DexterVault.Execution
open DexterVault.Transition
open DexterVault.Session
open DexterVault.Gate
open DexterVault.Program
open DexterVault.Sessions
open DexterVault.SessionCount

variable {runtime : Runtime} {key vaultKey : Pubkey}

/-- The registered sessions of the vault that have not expired at `now`. -/
def liveSessions (now : I64) (state : State) (vaultKey : Pubkey) :
    Finset Pubkey :=
  (registeredKeys state vaultKey).filter fun key => LiveAt now state key

/-- What the live sessions of the vault may still claim, by their caps. -/
def liveCaps (now : I64) (state : State) (vaultKey : Pubkey) : ℕ :=
  ∑ key ∈ liveSessions now state vaultKey, maxAmountAt state key

/-- After the registration the caps of the live sessions and the outstanding
locks of the vault are covered by the balance of its swig wallet. -/
def Covered (runtime : Runtime) (accepted : Accepted State Call) : Prop :=
  ∀ registration ∈ accepted.call.registration,
    ∃ ledger ∈ accepted.after.ledger? registration.accounts.vault,
      liveCaps registration.context.unixTimestamp accepted.after
          registration.accounts.vault + ledger.outstandingLockedAmount.val ≤
        usdcBalance runtime accepted.after ledger.swigAddress

/-- The token account of a registration is the USDC account of the wallet. -/
def PassesUsdcAta (runtime : Runtime) (accepted : Accepted State Call) :
    Prop :=
  ∀ registration ∈ accepted.call.registration,
    usdcAta runtime registration.accounts.swig =
      some registration.accounts.vaultUsdcAta

/-- The registration shows the gate no cleared account and the wallet's own
USDC account. -/
def ShowsGate (runtime : Runtime) (accepted : Accepted State Call) : Prop :=
  ListsRegistered accepted ∧ PassesUsdcAta runtime accepted

instance (accepted : Accepted State Call) :
    Decidable (Covered runtime accepted) :=
  inferInstanceAs (Decidable (∀ registration ∈ accepted.call.registration,
    ∃ ledger ∈ accepted.after.ledger? registration.accounts.vault, _))

instance (accepted : Accepted State Call) :
    Decidable (ShowsGate runtime accepted) :=
  inferInstanceAs (Decidable (ListsRegistered accepted ∧
    ∀ registration ∈ accepted.call.registration, _))

section Registration

variable {context : Context} {accounts : RegisterSessionKey}
  {args : RegisterSessionKeyArgs} {before after : State} {vault : Vault}
  {ata : TokenAccount} {session : SessionAccount} {bump : U8} {gate : Gate}

variable (hsessions : after.session? = update
      (sweptSessions before.session? (expiredKeys context.unixTimestamp before
        (siblingKeys accounts)))
      accounts.session
      (some (writtenSession session bump accounts.vault args)))

include hsessions

theorem session?_target :
    after.session? accounts.session =
      some (writtenSession session bump accounts.vault args) := by
  rw [hsessions, update_self]

variable (hregistered : Registered runtime context accounts args before vault ata
      session bump gate)

include hregistered

/-- A sibling that is live when the gate looks at it is not written. -/
theorem session?_of_live (hlive : key ∈ liveKeys context.unixTimestamp before
      (siblingKeys accounts)) :
    key ≠ accounts.session ∧ after.session? key = before.session? key := by
  obtain ⟨hlisted, hlive⟩ := mem_liveKeys.mp hlive
  obtain ⟨sibling, hsibling⟩ := sibling_of_mem hregistered hlisted
  refine ⟨hsibling.notTarget, ?_⟩
  rw [hsessions, update_of_ne hsibling.notTarget, sweptSessions, if_neg]
  exact fun hexpired => (mem_expiredKeys.mp hexpired).2 hlive

variable (hfree : runtime.CollisionFree) (hsited : AllSited runtime before)
  (hexact : CountExact before)
  (hlisted : ListsRegistered
    ⟨before, .registerSessionKey context accounts args, after⟩)

include hfree hsited hexact hlisted

/-- The live sessions after the registration are its target and the siblings
that the gate has summed. -/
theorem liveSessions_register :
    liveSessions context.unixTimestamp after accounts.vault =
      insert accounts.session (liveKeys context.unixTimestamp before
        (siblingKeys accounts)).toFinset := by
  have hcomplete :=
    siblings_complete hfree hsited hexact hregistered hlisted
  have hkeys := registeredKeys_register hfree hsited hregistered hsessions
  ext key
  rw [liveSessions, Finset.mem_filter, hkeys, Finset.mem_insert,
    Finset.mem_insert, Finset.mem_sdiff, List.mem_toFinset, List.mem_toFinset]
  constructor
  · rintro ⟨rfl | ⟨hbefore, hkept⟩, hlive⟩
    · exact .inl rfl
    · by_cases hkey : key = accounts.session
      · exact .inl hkey
      -- a registered account other than the target has been listed
      have hmem : key ∈ siblingKeys accounts := by
        rw [← List.mem_toFinset, hcomplete]
        exact Finset.mem_erase.mpr ⟨hkey, hbefore⟩
      refine .inr (mem_liveKeys.mpr ⟨hmem, ?_⟩)
      by_contra hexpired
      exact hkept (mem_expiredKeys.mpr ⟨hmem, hexpired⟩)
  · rintro (rfl | hlive)
    · refine ⟨.inl rfl, writtenSession session bump accounts.vault args,
        session?_target hsessions, ?_⟩
      rw [IsLive, writtenSession_session]
      exact hregistered.inFuture
    · obtain ⟨-, hsame⟩ := session?_of_live hsessions hregistered hlive
      obtain ⟨hmem, hlive⟩ := mem_liveKeys.mp hlive
      have hbefore : key ∈ registeredKeys before accounts.vault :=
        Finset.mem_of_mem_erase
          (hcomplete ▸ List.mem_toFinset.mpr hmem)
      refine ⟨.inr ⟨hbefore, ?_⟩, ?_⟩
      · exact fun hexpired => (mem_expiredKeys.mp hexpired).2 hlive
      · rw [LiveAt, hsame]
        exact hlive

/-- Their caps are the new cap and the sum the gate has computed. -/
theorem liveCaps_register :
    liveCaps context.unixTimestamp after accounts.vault =
      args.maxAmount.val + gate.siblingSum.val := by
  have hnodup : (liveKeys context.unixTimestamp before
      (siblingKeys accounts)).Nodup := (siblingKeys_nodup hregistered).filter _
  have htarget : maxAmountAt after accounts.session = args.maxAmount.val := by
    rw [maxAmountAt, session?_target hsessions, Option.elim_some,
      writtenSession_session]
    rfl
  have hsiblings : ∀ key ∈ liveKeys context.unixTimestamp before
      (siblingKeys accounts), maxAmountAt after key = maxAmountAt before key := by
    intro key hkey
    rw [maxAmountAt, (session?_of_live hsessions hregistered hkey).2]
    rfl
  have hnew : accounts.session ∉ (liveKeys context.unixTimestamp before
      (siblingKeys accounts)).toFinset := fun hmem =>
    (session?_of_live hsessions hregistered (List.mem_toFinset.mp hmem)).1 rfl
  have hsum : gate.siblingSum.val = ((liveKeys context.unixTimestamp before
      (siblingKeys accounts)).map (maxAmountAt before)).sum := by
    rw [hregistered.run.siblingSum]
    exact Nat.zero_add _
  rw [liveCaps, liveSessions_register hsessions hregistered hfree hsited
    hexact hlisted, Finset.sum_insert hnew, htarget, List.sum_toFinset _ hnodup,
    List.map_congr_left hsiblings, hsum]

end Registration

/-- The step lemma. -/
theorem covered_step (hfree : runtime.CollisionFree) {before after : State}
    {call : Call} (hsited : AllSited runtime before)
    (hexact : CountExact before)
    (hshows : ShowsGate runtime ⟨before, call, after⟩)
    (hstep : step runtime before call = .ok after) :
    Covered runtime ⟨before, call, after⟩ := by
  intro registration hregistration
  obtain rfl := Call.eq_of_registration hregistration
  have htokens := step_tokens hstep
  obtain ⟨hlisted, hata⟩ := hshows
  cases step_change hstep with
  | quiet hquiet => cases hquiet
  | bound hcall => cases hcall
  | @registered _ _ _ _ vault ata session bump gate count hregistered hcount
      hviews =>
      refine ⟨{ vault.ledger with liveSessionCount := count }, ?_, ?_⟩
      · rw [hviews.ledgers, update_self]
        rfl
      · have hbalance : usdcBalance runtime after vault.swigAddress =
            ata.amount.val := by
          rw [usdcBalance, ← hregistered.swig, hata _ rfl, Option.elim_some,
            tokenBalance, htokens]
          exact congrArg (Option.elim · 0 _) hregistered.ataAt
        have hcaps := liveCaps_register hviews.sessions hregistered hfree hsited
          hexact hlisted
        have hcovered := hregistered.covered
        rw [hcaps]
        change _ + vault.outstandingLockedAmount.val ≤
          usdcBalance runtime after vault.swigAddress
        omega

/-- In a run whose registrations show the gate no cleared account and the
wallet's own USDC account, every accepted registration leaves the vault covered
over all of its live sessions. -/
theorem registrations_covered (hfree : runtime.CollisionFree)
    {start state : State} {trace : Trace} (hstart : OnlyImages start)
    (hrun : Run (system runtime) start trace state)
    (hshows : Guarded (fun _ => ShowsGate runtime) trace) :
    ∀ accepted ∈ trace, Covered runtime accepted := by
  refine hrun.forall_accepted (Covered runtime) ?_ hshows
  intro earlier before call after hrun hearlier hlatest hstep
  have hlisted : Guarded (fun _ => ListsRegistered) earlier :=
    hearlier.mono fun _ _ hshows => hshows.1
  exact covered_step hfree (allSited_of_run hfree hstart hrun)
    (countExact_run hfree hstart hrun hlisted) hlatest hstep

theorem registrations_covered_settled :
    Covered Deployment.sampleRuntime
      ⟨Deployment.bound,
        Deployment.registerFor Deployment.seller Deployment.sellerSession 100 [],
        Deployment.registered⟩ :=
  registrations_covered Deployment.sampleRuntime_collisionFree
    Deployment.onlyImages_funded settled_run (by decide +kernel)
    _ (List.mem_cons_of_mem _ (List.mem_cons_self ..))

/-! ## A cleared account among the siblings

A session for the all-zero counterparty is registered and revoked, and its
cleared account then stands in for the session of the seller. -/

section Examples

open DexterVault.Deployment

def sessionFor (counterparty : Pubkey) : SessionAccount :=
  ⟨1, 255, Deployment.vaultKey, (sessionScope counterparty 100).registration⟩

def zeroRegistered : State :=
  (funded.write Deployment.vaultKey (.vault registeredVault)).write zeroSession
    (.session (sessionFor defaultPubkey))

def zeroRevoked : State :=
  (funded.write Deployment.vaultKey (.vault boundVault)).write zeroSession
    (.session (sessionFor defaultPubkey).clear)

def sellerRegistered : State :=
  (zeroRevoked.write Deployment.vaultKey (.vault registeredVault)).write sellerSession
    (.session (sessionFor seller))

def hidden : State :=
  sellerRegistered.write otherSession (.session (sessionFor otherSeller))

def registerHiding : Call :=
  registerFor otherSeller otherSession 100 [⟨zeroSession, true⟩]

theorem hiding_steps :
    step sampleRuntime bound (registerFor defaultPubkey zeroSession 100 []) =
        .ok zeroRegistered ∧
      step sampleRuntime zeroRegistered (revokeFor defaultPubkey zeroSession) =
        .ok zeroRevoked ∧
      step sampleRuntime zeroRevoked (registerFor seller sellerSession 100 []) =
        .ok sellerRegistered ∧
      step sampleRuntime sellerRegistered registerHiding = .ok hidden := by
  decide +kernel

def zeroRegisteredTrace : Trace :=
  ⟨bound, registerFor defaultPubkey zeroSession 100 [], zeroRegistered⟩ ::
    boundTrace

def zeroRevokedTrace : Trace :=
  ⟨zeroRegistered, revokeFor defaultPubkey zeroSession, zeroRevoked⟩ ::
    zeroRegisteredTrace

def sellerRegisteredTrace : Trace :=
  ⟨zeroRevoked, registerFor seller sellerSession 100 [], sellerRegistered⟩ ::
    zeroRevokedTrace

def hiddenTrace : Trace :=
  ⟨sellerRegistered, registerHiding, hidden⟩ :: sellerRegisteredTrace

theorem hidden_run : Run (system sampleRuntime) funded hiddenTrace hidden := by
  obtain ⟨hzero, hrevoke, hregister, hhide⟩ := hiding_steps
  have hregistered : Run (system sampleRuntime) funded zeroRegisteredTrace
      zeroRegistered := bound_run.accept hzero
  have hrevoked : Run (system sampleRuntime) funded zeroRevokedTrace
      zeroRevoked := hregistered.accept hrevoke
  have hseller : Run (system sampleRuntime) funded sellerRegisteredTrace
      sellerRegistered := hrevoked.accept hregister
  exact hseller.accept hhide

/-- A cleared account stands in for a live session: two sessions of 100 are
live against a balance of 100. -/
theorem cleared_account_hides_session :
    Run (system Deployment.sampleRuntime) Deployment.funded
        hiddenTrace hidden ∧
      liveCaps Deployment.now hidden Deployment.vaultKey = 200 ∧
      usdcBalance Deployment.sampleRuntime hidden Deployment.swig =
        100 ∧
      ¬ ∀ accepted ∈ hiddenTrace,
        Covered Deployment.sampleRuntime accepted :=
  ⟨hidden_run, by decide +kernel, by decide +kernel,
    by decide +kernel⟩

end Examples

end DexterVault.Overcommit
