import DexterVault.Program.Admission

/-!
# Assertions and the vault they were made for

Two vaults may hold one passkey.  The operations that name their vault or its
swig in the message are accepted for one of the two only.  A request, a
finalization and a rotation name neither: what the passkey asserted for one
vault, the other one accepts as well, a finalization as soon as a withdrawal of
the same amount and destination is ready there.
-/

namespace DexterVault.CrossVault

open DexterVault.Machine
open DexterVault.Framing
open DexterVault.Accounts
open DexterVault.Execution
open DexterVault.Transition
open DexterVault.Setup
open DexterVault.Withdrawal
open DexterVault.Program
open DexterVault.Operations
open DexterVault.Assertions
open DexterVault.Admission

variable {runtime : Runtime} {messages : Set Bytes}

/-- The vault that a message names. -/
def namedVault : Operation → Option Pubkey
  | .recoverAbandonedLock vault _ | .openStandby vault _ _
  | .closeStandby vault _ | .register _ vault .. | .revoke _ vault _ =>
      some vault
  | _ => none

/-- A call that names a vault in its message names its own. -/
theorem eq_of_namedVault {state : State} {call : Call} {attempt : Presented}
    {vault : Pubkey} (hattempt : presented state call = some attempt)
    (hnamed : namedVault attempt.operation = some vault) :
    attempt.vault = vault := by
  cases presents_of_presented hattempt with
  | register | revoke | recoverAbandonedLock | openStandby | closeStandby =>
      exact Option.some.inj hnamed
  | _ => cases hnamed

/-- The operation, asserted for another vault, is accepted by the vault. -/
def Portable (runtime : Runtime) (state : State) (vault : Vault) :
    Operation → Prop
  | .requestWithdrawal .. | .rotatePasskey _ => True
  | .finalizeWithdrawal amount destination =>
      ∃ pending wallet ataKey now, pending.amount = amount ∧
        pending.destination = destination ∧
        Finalizable runtime state vault pending wallet ataKey now
  | _ => False

/-- A bound vault refuses to be bound again. -/
theorem not_setSwig_of_bound {state next : State} {call : Call}
    {attempt : Presented} {vault : Vault}
    (hok : step runtime state call = .ok next)
    (hattempt : presented state call = some attempt)
    (hvault : state.vault? attempt.vault = some vault)
    (hbound : vault.swigAddress ≠ defaultPubkey) (swig : Pubkey) :
    attempt.operation ≠ .setSwig swig := by
  intro hoperation
  cases presents_of_presented hattempt with
  | setSwig =>
      obtain ⟨found, hfound, hdefault, -⟩ := setSwig_ok hok
      obtain rfl := Option.some.inj (hfound.symm.trans hvault)
      exact hbound hdefault
  | setSwigAtomic =>
      obtain ⟨found, hfound, hdefault, -⟩ := setSwigAtomic_ok hok
      obtain rfl := Option.some.inj (hfound.symm.trans hvault)
      exact hbound hdefault
  | _ => cases hoperation

/-- An accepted release names the swig of its vault. -/
theorem forceRelease_swig {state next : State} {call : Call}
    {attempt : Presented} {vault : Vault} {swig : Pubkey}
    (hok : step runtime state call = .ok next)
    (hattempt : presented state call = some attempt)
    (hafter : next.vault? attempt.vault = some vault)
    (hoperation : attempt.operation = .forceRelease swig) :
    vault.swigAddress = swig := by
  cases presents_of_presented hattempt with
  | forceRelease hvault =>
      obtain ⟨found, pending, hreleased, rfl⟩ := forceRelease_ok hok
      obtain rfl := Option.some.inj (hreleased.vaultAt.symm.trans hvault)
      rw [State.vault?, State.view_write, if_pos rfl] at hafter
      cases hafter
      cases hoperation
      rfl
  | _ => cases hoperation

/-- Apart from the portable operations, what was accepted for one vault is not
accepted for another: the message names the vault or the swig, or binds a vault
that is already bound. -/
theorem portable_of_accepted {before after state next : State}
    {call other : Call} {attempt again : Presented} {later vault : Vault}
    (hok : step runtime before call = .ok after)
    (hattempt : presented before call = some attempt)
    (hlater : after.vault? attempt.vault = some later)
    (hokAgain : step runtime state other = .ok next)
    (hagain : presented state other = some again)
    (hvault : state.vault? again.vault = some vault)
    (hvaults : again.vault ≠ attempt.vault)
    (hswigs : vault.swigAddress ≠ later.swigAddress)
    (hbound : vault.swigAddress ≠ defaultPubkey)
    (hchanges : attempt.operation.kind ≠ .siwxLogin)
    (hoperation : again.operation = attempt.operation) :
    Portable runtime state vault attempt.operation := by
  have hnamed : ∀ key, namedVault attempt.operation ≠ some key := by
    intro key hkey
    have hfirst := eq_of_namedVault hattempt hkey
    have hsecond := eq_of_namedVault hagain (hoperation.symm ▸ hkey)
    exact hvaults (hsecond.trans hfirst.symm)
  cases hkind : attempt.operation with
  | requestWithdrawal => trivial
  | rotatePasskey => trivial
  | finalizeWithdrawal amount destination =>
      rw [hkind] at hoperation
      have hadmits := admits_of_accepted hokAgain hagain hvault
        (by rw [hoperation]; rfl)
      rw [hoperation] at hadmits
      cases hadmits with
      | finalizeWithdrawal hfinalizable =>
          exact ⟨_, _, _, _, rfl, rfl, hfinalizable⟩
  | setSwig swig =>
      exact absurd (hoperation.trans hkind)
        (not_setSwig_of_bound hokAgain hagain hvault hbound swig)
  | forceRelease swig =>
      have hfirst := forceRelease_swig hok hattempt hlater hkind
      rw [hkind] at hoperation
      have hadmits := admits_of_accepted hokAgain hagain hvault
        (by rw [hoperation]; rfl)
      rw [hoperation, ← hfirst] at hadmits
      generalize hswig : later.swigAddress = released at hadmits
      cases hadmits
      exact absurd hswig.symm hswigs
  | siwxLogin => exact absurd (congrArg Operation.kind hkind) hchanges
  | _ => exact absurd (congrArg namedVault hkind) (hnamed _)

/-- A portable operation that one vault has accepted is admitted by the other. -/
theorem Portable.admits {before after state : State} {call : Call}
    {attempt : Presented} {vault : Vault} {other : Pubkey}
    (hportable : Portable runtime state vault attempt.operation)
    (hok : step runtime before call = .ok after)
    (hattempt : presented before call = some attempt) :
    Admits runtime state other vault attempt.operation := by
  cases presents_of_presented hattempt with
  | requestWithdrawal => exact .requestWithdrawal
  | finalizeWithdrawal =>
      obtain ⟨pending, wallet, ataKey, now, hamount, hdestination,
        hfinalizable⟩ := hportable
      rw [← hamount, ← hdestination]
      exact .finalizeWithdrawal hfinalizable
  | rotatePasskey =>
      obtain ⟨first, hfirst, -⟩ := presented_verified hok hattempt
      have hadmits := admits_of_accepted hok hattempt hfirst rfl
      cases hadmits with
      | rotatePasskey hcompressed => exact .rotatePasskey hcompressed
  | _ => exact hportable.elim

/-- An assertion accepted for one vault is refused for every state-changing
operation of a second vault with the same passkey and another swig exactly when
it is not for a portable operation. -/
theorem cross_vault_iff (hcollisionFree : Set.InjOn runtime.sha256 messages)
    {before after state : State} {call : Call} {attempt : Presented}
    {first later vault : Vault} {other : Pubkey}
    (hok : step runtime before call = .ok after)
    (hattempt : presented before call = some attempt)
    (hchanges : attempt.operation.kind ≠ .siwxLogin)
    (hmem : attempt.operation.message ∈ messages)
    (hfirst : before.vault? attempt.vault = some first)
    (hlater : after.vault? attempt.vault = some later)
    (hvault : state.vault? other = some vault)
    (hversion : vault.version = vaultVersionV6)
    (hvaults : other ≠ attempt.vault)
    (hpasskey : vault.passkeyPubkey = first.passkeyPubkey)
    (hswigs : vault.swigAddress ≠ later.swigAddress)
    (hbound : vault.swigAddress ≠ defaultPubkey) :
    (∀ second next again, step runtime state second = .ok next →
      presented state second = some again → again.vault = other →
      again.operation.kind ≠ .siwxLogin →
      again.operation.message ∈ messages →
      again.assertion ≠ attempt.assertion) ↔
    ¬ Portable runtime state vault attempt.operation := by
  obtain ⟨found, hfound, hverified⟩ := presented_verified hok hattempt
  obtain rfl : found = first := Option.some.inj (hfound.symm.trans hfirst)
  constructor
  · intro hrefused hportable
    -- the transaction of the first vault is sent again for the second one
    have hreplayed : Presented.Verified runtime call.context vault.passkeyPubkey
        ⟨other, attempt.assertion, attempt.operation⟩ := by
      rw [hpasskey]
      exact hverified
    obtain ⟨second, next, hokAgain, hagain⟩ := accepted_of_admits hvault
      hversion hreplayed (hportable.admits hok hattempt)
    exact hrefused second next _ hokAgain hagain rfl hchanges hmem rfl
  · intro hnot second next again hokAgain hagain hother _ hagainMem hassertion
    subst hother
    obtain ⟨_, -, hagainVerified⟩ := presented_verified hokAgain hagain
    have hoperation : again.operation = attempt.operation :=
      hagainVerified.operation_eq hcollisionFree hverified hagainMem hmem
        (congrArg Webauthn.Assertion.clientDataJson hassertion)
    exact hnot (portable_of_accepted hok hattempt hlater hokAgain hagain hvault
      hvaults hswigs hbound hchanges hoperation)

/-! ## Twin vaults -/

section Examples

open Deployment

/-- The swig of the second vault. -/
def twinSwig : Pubkey := filled 84

/-- A second vault with the passkey of the first. -/
def createTwin : Call :=
  .initializeVault (plainContext [authority] now)
    ⟨rivalVault, authority, authority⟩ ⟨passkey, 0, rivalIdentity⟩

def bindTwin : Call :=
  .setSwig (passkeyContext passkey (setSwigMessage twinSwig) [] now) rivalVault
    ⟨assertion (setSwigMessage twinSwig), twinSwig⟩

/-- The transaction of `requestAt`, sent for the second vault. -/
def requestTwin : Call :=
  let message := requestWithdrawalMessage (withdrawalScope Deployment.now)
  .requestWithdrawal (passkeyContext passkey message [] Deployment.now)
    rivalVault
    { withdrawalScope Deployment.now with toAssertion := assertion message }

def twinVault : Vault :=
  newVault 255 authority ⟨passkey, 0, rivalIdentity⟩

def twinCreated : State := bound.write rivalVault (.vault twinVault)

def boundTwin : Vault := { twinVault with swigAddress := twinSwig }

def twinBound : State := bound.write rivalVault (.vault boundTwin)

def requestedVault : Vault :=
  { boundVault with
    pendingWithdrawal := some (withdrawalScope Deployment.now).pending }

def twinRequested : State :=
  twinBound.write vaultKey (.vault requestedVault)

def twinsRequested : State :=
  twinRequested.write rivalVault (.vault { boundTwin with
    pendingWithdrawal := some (withdrawalScope Deployment.now).pending })

theorem twin_steps :
    step sampleRuntime bound createTwin = .ok twinCreated ∧
      step sampleRuntime twinCreated bindTwin = .ok twinBound ∧
      step sampleRuntime twinBound (requestAt Deployment.now) =
        .ok twinRequested ∧
      step sampleRuntime twinRequested requestTwin = .ok twinsRequested := by
  decide +kernel

/-- What both requests present, each for its vault. -/
def twinAttempt (vault : Pubkey) : Presented :=
  ⟨vault, assertion (requestWithdrawalMessage (withdrawalScope Deployment.now)),
    .requestWithdrawal 10 withdrawalDestination Deployment.now⟩

def twinTrace : Trace :=
  [⟨twinRequested, requestTwin, twinsRequested⟩,
    ⟨twinBound, requestAt Deployment.now, twinRequested⟩,
    ⟨twinCreated, bindTwin, twinBound⟩,
    ⟨bound, createTwin, twinCreated⟩] ++ boundTrace

theorem twin_run : Run (system sampleRuntime) funded twinTrace twinsRequested := by
  obtain ⟨hcreate, hbind, hask, hagain⟩ := twin_steps
  have hcreated : Run (system sampleRuntime) funded
      (⟨bound, createTwin, twinCreated⟩ :: boundTrace) twinCreated :=
    bound_run.accept hcreate
  have hbound : Run (system sampleRuntime) funded
      (⟨twinCreated, bindTwin, twinBound⟩ ::
        ⟨bound, createTwin, twinCreated⟩ :: boundTrace) twinBound :=
    hcreated.accept hbind
  have hrequested : Run (system sampleRuntime) funded
      (⟨twinBound, requestAt Deployment.now, twinRequested⟩ ::
        ⟨twinCreated, bindTwin, twinBound⟩ ::
        ⟨bound, createTwin, twinCreated⟩ :: boundTrace) twinRequested :=
    hbound.accept hask
  exact hrequested.accept hagain

theorem twin_vaults :
    vaultKey ≠ rivalVault ∧
      twinBound.vault? vaultKey = some boundVault ∧
      twinRequested.vault? vaultKey = some requestedVault ∧
      twinRequested.vault? rivalVault = some boundTwin ∧
      boundTwin.passkeyPubkey = boundVault.passkeyPubkey ∧
      boundTwin.swigAddress ≠ requestedVault.swigAddress ∧
      boundTwin.swigAddress ≠ defaultPubkey := by
  decide +kernel

theorem cross_vault_iff_twins :
    (∀ second next again,
      step sampleRuntime twinRequested second = .ok next →
      presented twinRequested second = some again → again.vault = rivalVault →
      again.operation.kind ≠ .siwxLogin →
      again.operation.message ∈ ({(twinAttempt vaultKey).operation.message} :
        Set Bytes) →
      again.assertion ≠ (twinAttempt vaultKey).assertion) ↔
    ¬ Portable sampleRuntime twinRequested boundTwin
      (twinAttempt vaultKey).operation := by
  obtain ⟨hvaults, hfirst, hlater, htwin, hpasskey, hswigs, hbound⟩ :=
    twin_vaults
  have hattempt : presented twinBound (requestAt Deployment.now) =
      some (twinAttempt vaultKey) := rfl
  exact cross_vault_iff (Set.injOn_singleton _ _) twin_steps.2.2.1 hattempt
    (by decide) rfl hfirst hlater htwin rfl hvaults.symm hpasskey hswigs hbound

/-- The request endorsed for the first vault is accepted for both. -/
theorem cross_vault_replayed :
    Run (system sampleRuntime) funded twinTrace twinsRequested ∧
      ⟨twinBound, requestAt Deployment.now, twinRequested⟩ ∈ twinTrace ∧
      ⟨twinRequested, requestTwin, twinsRequested⟩ ∈ twinTrace ∧
      presented twinBound (requestAt Deployment.now) =
        some (twinAttempt vaultKey) ∧
      presented twinRequested requestTwin = some (twinAttempt rivalVault) ∧
      (twinAttempt vaultKey).assertion = (twinAttempt rivalVault).assertion ∧
      vaultKey ≠ rivalVault ∧
      twinRequested.vault? vaultKey = some requestedVault ∧
      twinRequested.vault? rivalVault = some boundTwin ∧
      requestedVault.passkeyPubkey = boundTwin.passkeyPubkey ∧
      requestedVault.swigAddress ≠ boundTwin.swigAddress := by
  obtain ⟨hvaults, -, hlater, htwin, hpasskey, hswigs, -⟩ := twin_vaults
  exact ⟨twin_run, by simp [twinTrace], by simp [twinTrace], rfl, rfl, rfl,
    hvaults, hlater, htwin, hpasskey.symm, hswigs.symm⟩

end Examples

end DexterVault.CrossVault
