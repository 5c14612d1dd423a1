import DexterVault.Custody.Grace
import DexterVault.Custody.RootOfTrust
import DexterVault.Program.Admission

/-!
# How often an assertion takes effect

Six operations are meant to take effect once for each assertion, and none of
their messages carries a nonce or a time.  What keeps an assertion from taking
effect again is that no vault with its passkey admits the operation any more; a
later history may bring such a vault back, and then the assertion is accepted
again.
-/

namespace DexterVault.SingleUse

open DexterVault.Machine
open DexterVault.Framing
open DexterVault.Accounts
open DexterVault.Execution
open DexterVault.Transition
open DexterVault.Webauthn
open DexterVault.Setup
open DexterVault.Withdrawal
open DexterVault.Session
open DexterVault.Credit
open DexterVault.Program
open DexterVault.Operations
open DexterVault.Assertions
open DexterVault.Admission

/-- The kinds of operation that take effect once for each assertion. -/
def oneShot : Kind → Bool
  | .finalizeWithdrawal | .forceRelease | .rotatePasskey | .openStandby
  | .closeStandby | .revoke => true
  | _ => false

/-- An assertion together with the passkey that made it. -/
structure Use where
  passkey : PasskeyPubkey
  assertion : Assertion
  deriving DecidableEq

/-- A use of an assertion and the operation it was made for. -/
structure Effect where
  use : Use
  operation : Operation
  deriving DecidableEq

/-- The effect of an accepted call, if it is one of the six operations and has
changed the state. -/
def effect (accepted : Accepted State Call) : Option Effect := do
  let attempt ← presented accepted.before accepted.call
  let vault ← accepted.before.vault? attempt.vault
  if oneShot attempt.operation.kind = true ∧ accepted.after ≠ accepted.before then
    return ⟨⟨vault.passkeyPubkey, attempt.assertion⟩, attempt.operation⟩
  else
    none

def effects (trace : Trace) : List Effect :=
  trace.filterMap effect

/-- No assertion has taken effect twice. -/
def EachOnce (trace : Trace) : Prop :=
  ((effects trace).map Effect.use).Nodup

instance (trace : Trace) : Decidable (EachOnce trace) :=
  inferInstanceAs (Decidable (List.Nodup _))

/-- The operation would change the vault: a rotation to another passkey, an
opening with another financier or cap, and every other one. -/
def Moves (vault : Vault) : Operation → Prop
  | .rotatePasskey newPasskeyPubkey => newPasskeyPubkey ≠ vault.passkeyPubkey
  | .openStandby _ financierSwig cap =>
      vault.standbyBacker = some financierSwig → vault.standbyCap ≠ cap
  | _ => True

section Steps

variable {runtime : Runtime} {state next : State} {call : Call}
  {attempt : Presented} {vault : Vault} {used : Effect}

/-- The operation of an assertion is the one it has been accepted for. -/
theorem operation_eq {context other : Context} {messages : Set Bytes}
    {earlier later : Effect}
    (hcollisionFree : Set.InjOn runtime.sha256 messages)
    (hearlier : Presented.Verified runtime context earlier.use.passkey
      ⟨defaultPubkey, earlier.use.assertion, earlier.operation⟩)
    (hlater : Presented.Verified runtime other later.use.passkey
      ⟨defaultPubkey, later.use.assertion, later.operation⟩)
    (hearlierMem : earlier.operation.message ∈ messages)
    (hlaterMem : later.operation.message ∈ messages)
    (huse : later.use = earlier.use) : later.operation = earlier.operation :=
  hlater.operation_eq hcollisionFree hearlier hlaterMem hearlierMem
    (congrArg (fun use => use.assertion.clientDataJson) huse)

end Steps

/-! ## Runs -/

section Runs

variable {runtime : Runtime} {messages : Set Bytes} {start state : State}
  {trace : Trace}

theorem effects_cons (accepted : Accepted State Call) (earlier : Trace) :
    effects (accepted :: earlier) =
      (effect accepted).toList ++ effects earlier := by
  rw [effects, List.filterMap_cons]
  cases effect accepted <;> rfl

/-- A call that uses no assertion that has taken effect before. -/
theorem EachOnce.cons {accepted : Accepted State Call} {earlier : Trace}
    (honce : EachOnce earlier)
    (hfresh : ∀ again, effect accepted = some again →
      ∀ used ∈ effects earlier, again.use ≠ used.use) :
    EachOnce (accepted :: earlier) := by
  rw [EachOnce, effects_cons]
  cases heffect : effect accepted with
  | none => exact honce
  | some again =>
      rw [Option.toList_some, List.singleton_append, List.map_cons,
        List.nodup_cons]
      refine ⟨fun hmem => ?_, honce⟩
      obtain ⟨used, hused, huse⟩ := List.mem_map.mp hmem
      exact hfresh again heffect used hused huse.symm

end Runs

/-! ## One release, and two -/

section Examples

open Deployment
open DexterVault.Grace

section Tabs

variable {tabs : U32} {pending : Option PendingWithdrawal} {exposure : U64}
  {runtime : Runtime} {state : State} {key : Pubkey} {vault : Vault}

end Tabs

end Examples

end DexterVault.SingleUse
