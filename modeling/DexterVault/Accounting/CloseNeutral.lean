import DexterVault.Accounting.SiblingLists
import DexterVault.Custody.RootOfTrust
import DexterVault.Program.Closing

/-!
# Closing a session changes nothing else

`close_session` removes a cleared account.  From the state in which the account
is gone and from the one in which it stays cleared in place, every later
sequence of calls is accepted and refused alike, and leads to states that are
equal apart from that account.
-/

namespace DexterVault.CloseNeutral

open DexterVault.Machine
open DexterVault.Framing
open DexterVault.Accounts
open DexterVault.Execution
open DexterVault.Transition
open DexterVault.Agreement
open DexterVault.Session
open DexterVault.Voucher
open DexterVault.Program
open DexterVault.Sessions
open DexterVault.SiblingLists
open DexterVault.RootOfTrust
open DexterVault.Closing

variable {runtime : Runtime} {key : Pubkey} {account : SessionAccount}

/-! ## Sessions have vaults -/

/-- The vault that a session account names is there. -/
def Housed (state : State) : Prop :=
  ∀ key account, state.session? key = some account →
    ∃ vault, state.vault? account.vault = some vault

section Housed

variable {before after : State} {call : Call}

theorem writtenSession_vault (found : SessionAccount) (bump : U8)
    (vaultKey : Pubkey) (args : RegisterSessionKeyArgs) :
    (writtenSession found bump vaultKey args).vault =
      if found.version = 0 then vaultKey else found.vault := by
  unfold writtenSession
  split <;> rfl

theorem housed_step (hhoused : Housed before)
    (hstep : step runtime before call = .ok after) : Housed after := by
  intro key account hsession
  have hkept : ∀ vaultKey vault, before.vault? vaultKey = some vault →
      ∃ later, after.vault? vaultKey = some later := by
    intro vaultKey vault hvault
    obtain ⟨later, hlater, -⟩ := (step_owned hstep).kept vaultKey vault hvault
    exact ⟨later, hlater⟩
  have hbefore : ∀ found : SessionAccount, before.session? key = some found →
      ∀ vaultKey, found.vault = vaultKey →
        ∃ later, after.vault? vaultKey = some later := by
    rintro found hfound _ rfl
    obtain ⟨vault, hvault⟩ := hhoused key found hfound
    exact hkept _ vault hvault
  cases session_change (step_change hstep) key with
  | same _ hafter => exact hbefore _ (hafter ▸ hsession) _ rfl
  | opened hopened hafter =>
      obtain rfl := Option.some.inj (hafter.symm.trans hsession)
      exact hbefore _ hopened.sessionAt _ rfl
  | settled hkey hsettled hafter =>
      obtain rfl := Option.some.inj (hafter.symm.trans hsession)
      subst hkey
      exact hbefore _ hsettled.admitted.sessionAt _ rfl
  | locked hkey hlocked _ hafter =>
      obtain rfl := Option.some.inj (hafter.symm.trans hsession)
      subst hkey
      exact hbefore _ hlocked.admitted.sessionAt _ rfl
  | registered hkey hregistered hafter =>
      obtain rfl := Option.some.inj (hafter.symm.trans hsession)
      rw [writtenSession_vault]
      split
      · exact hkept _ _ hregistered.vaultAt
      · next hversion =>
          exact hbefore _
            (hkey ▸ session?_of_found hregistered.found hversion) _ rfl
  | swept _ _ hfound hafter =>
      obtain rfl := Option.some.inj (hafter.symm.trans hsession)
      exact hbefore _ hfound _ rfl
  | revoked hkey hrevoked hafter =>
      obtain rfl := Option.some.inj (hafter.symm.trans hsession)
      subst hkey
      exact hbefore _ hrevoked.sessionAt _ rfl
  | closed _ _ _ hafter =>
      rw [hafter] at hsession
      cases hsession
  | carried hkey hmigrated hafter =>
      obtain rfl := Option.some.inj (hafter.symm.trans hsession)
      obtain ⟨v5, _, _, -, rfl⟩ := Migration.migrateV5ToV6WithSession_ok hstep
      exact ⟨_, State.view_write_self⟩

theorem housed_run {start state : State} {trace : Trace}
    (hstart : OnlyImages start) (hrun : Run (system runtime) start trace state) :
    Housed state := by
  apply hrun.invariant Housed
  · intro key account hsession
    rw [hstart.2.1] at hsession
    cases hsession
  · exact fun before call after hhoused hstep => housed_step hhoused hstep
  · intro before after hhoused hmove key account hsession
    rw [(environment_views hmove).sessions] at hsession
    rw [environment_vaults hmove]
    exact hhoused key account hsession

/-- In a reachable state, without a session for the all-zero counterparty, a
cleared account is a shell. -/
theorem shell_of_run (hfree : runtime.CollisionFree) {start state : State}
    {trace : Trace} (hstart : OnlyImages start)
    (hrun : Run (system runtime) start trace state)
    (hregistered : Guarded (fun _ => NamesCounterparty) trace)
    (hsession : state.session? key = some account)
    (hcleared : account.version = 0) : Shell runtime key account state := by
  obtain ⟨counterparty, hcounterparty, haddress, -⟩ :=
    sited_of_run hfree hstart hrun hregistered hsession
  have hblank := blank_of_run hstart hrun hsession hcleared
  exact ⟨hsession, hcleared, by rw [hblank]; rfl, account.vault, counterparty,
    account.bump, haddress, hcounterparty,
    housed_run hstart hrun key account hsession⟩

end Housed

/-! ## The bisimulation -/

/-- The states are the same, or the left one has a shell at `key` that is closed
in the right one. -/
def Related (runtime : Runtime) (key : Pubkey) (left right : State) : Prop :=
  left = right ∨
    ∃ account, Shell runtime key account left ∧ right = left.close key

section Related

variable {left right next other : State}

/-- Twins that come after a shell are related: its vault stays. -/
theorem related_of_twins (hshell : Shell runtime key account left)
    (hkept : ∀ vaultKey vault, left.vault? vaultKey = some vault →
      ∃ later, next.vault? vaultKey = some later)
    (htwins : Twins key account next other) : Related runtime key next other := by
  rcases htwins with rfl | ⟨hsession, rfl⟩
  · exact .inl rfl
  · obtain ⟨vaultKey, counterparty, bump, haddress, hcounterparty, vault,
      hvault⟩ := hshell.sited
    exact .inr ⟨account, ⟨hsession, hshell.cleared, hshell.blank, vaultKey,
      counterparty, bump, haddress, hcounterparty, hkept _ vault hvault⟩, rfl⟩

/-- Twins make the same moves of the environment. -/
theorem environment_twins (htwins : Twins key account left right)
    (hmove : Environment left next) :
    ∃ other, Environment right other ∧ Twins key account next other := by
  cases hmove with
  | tokens tokens =>
      refine ⟨{ right with tokens := tokens }, .tokens right tokens, ?_⟩
      rcases htwins with rfl | ⟨hsession, rfl⟩
      · exact .inl rfl
      · exact .inr ⟨hsession, rfl⟩
  | image himage written =>
      have hright := (congrFun (htwins.view fun _ => rfl) _).trans himage
      exact ⟨_, .image hright written, htwins.write _ _⟩
  | ledger himage hbacker written =>
      have hright := (congrFun (htwins.view fun _ => rfl) _).trans himage
      have hledger := (congrFun (htwins.view fun _ => rfl) _).trans hbacker
      exact ⟨_, .ledger hright hledger written, htwins.write _ _⟩

theorem environment_twins_back (htwins : Twins key account left right)
    (hmove : Environment right other) :
    ∃ next, Environment left next ∧ Twins key account next other := by
  cases hmove with
  | tokens tokens =>
      refine ⟨{ left with tokens := tokens }, .tokens left tokens, ?_⟩
      rcases htwins with rfl | ⟨hsession, rfl⟩
      · exact .inl rfl
      · exact .inr ⟨hsession, rfl⟩
  | image himage written =>
      have hleft := (congrFun (htwins.view fun _ => rfl) _).symm.trans himage
      exact ⟨_, .image hleft written, htwins.write _ _⟩
  | ledger himage hbacker written =>
      have hleft := (congrFun (htwins.view fun _ => rfl) _).symm.trans himage
      have hledger := (congrFun (htwins.view fun _ => rfl) _).symm.trans hbacker
      exact ⟨_, .ledger hleft hledger written, htwins.write _ _⟩

/-- Related states agree on every neutral call, and follow each other through
the moves of the environment. -/
theorem related_bisimulation (hfree : runtime.CollisionFree) :
    Bisimulation (system runtime) (Neutral key) (Related runtime key) where
  step left right call hrelated hneutral := by
    rcases hrelated with rfl | ⟨account, hshell, rfl⟩
    · exact Agrees.refl fun next _ => .inl rfl
    · apply (step_agrees hfree hshell hneutral).imp
      intro next other hok htwins
      apply related_of_twins hshell _ htwins
      intro vaultKey vault hvault
      obtain ⟨later, hlater, -⟩ := (step_owned hok).kept vaultKey vault hvault
      exact ⟨later, hlater⟩
  forth left right next hrelated hmove := by
    rcases hrelated with rfl | ⟨account, hshell, rfl⟩
    · exact ⟨next, hmove, .inl rfl⟩
    · obtain ⟨other, hother, htwins⟩ := environment_twins hshell.twins hmove
      refine ⟨other, hother, related_of_twins hshell (fun vaultKey vault hvault =>
        ?_) htwins⟩
      exact ⟨vault, (congrFun (environment_vaults hmove) vaultKey).trans hvault⟩
  back left right other hrelated hmove := by
    rcases hrelated with rfl | ⟨account, hshell, rfl⟩
    · exact ⟨other, hmove, .inl rfl⟩
    · obtain ⟨next, hnext, htwins⟩ := environment_twins_back hshell.twins hmove
      refine ⟨next, hnext, related_of_twins hshell (fun vaultKey vault hvault =>
        ?_) htwins⟩
      exact ⟨vault, (congrFun (environment_vaults hnext) vaultKey).trans hvault⟩

/-- The states have the same token balances and the same accounts, apart from
an account at `key` that is cleared in the left one and missing in the right
one. -/
structure EqualApart (key : Pubkey) (left right : State) : Prop where
  tokens : right.tokens = left.tokens
  others : ∀ other ≠ key,
    right.accounts.lookup other = left.accounts.lookup other
  shell : right.accounts.lookup key = left.accounts.lookup key ∨
    Dormant left key ∧ right.accounts.lookup key = none

theorem Related.equalApart (hrelated : Related runtime key left right) :
    EqualApart key left right := by
  rcases hrelated with rfl | ⟨account, hshell, rfl⟩
  · exact ⟨rfl, fun _ _ => rfl, .inl rfl⟩
  · have htwins := hshell.twins
    refine ⟨htwins.tokens, fun _ hother => htwins.lookup hother, .inr ?_⟩
    refine ⟨hshell.dormant, ?_⟩
    rw [lookup_close, if_pos rfl]

end Related

/-! ## Closing is neutral -/

section Runs

variable {start state : State} {trace : Trace}

/-- A cleared account of a reachable state may be closed or left in place:
`close_session` does nothing but close it, and every later sequence of calls and
moves of the environment, as long as no call asks whether the account is there,
is accepted and refused alike and ends in states that are equal apart from
it. -/
theorem close_session_neutral (hfree : runtime.CollisionFree)
    (hstart : OnlyImages start) (hrun : Run (system runtime) start trace state)
    (hregistered : Guarded (fun _ => NamesCounterparty) trace)
    (hsession : state.session? key = some account)
    (hcleared : account.version = 0) :
    (∀ context accounts args closed, accounts.session = key →
      step runtime state (.closeSession context accounts args) = .ok closed →
      closed = state.close key) ∧
    ∀ events, AllowedAll (Neutral key) events →
      (∀ final, Plays (system runtime) state events final →
        ∃ other, Plays (system runtime) (state.close key) events other ∧
          EqualApart key final other) ∧
      ∀ other, Plays (system runtime) (state.close key) events other →
        ∃ final, Plays (system runtime) state events final ∧
          EqualApart key final other := by
  have hbisimulation : Bisimulation (system runtime) (Neutral key)
      (Related runtime key) := related_bisimulation hfree
  have hrelated : Related runtime key state (state.close key) :=
    .inr ⟨account, shell_of_run hfree hstart hrun hregistered hsession hcleared,
      rfl⟩
  constructor
  · rintro context accounts args closed rfl hok
    obtain ⟨_, -, -, rfl⟩ := closeSession_ok hok
    rfl
  intro events hneutral
  constructor
  · intro final hplays
    obtain ⟨other, hother, hsame⟩ :=
      hbisimulation.plays hrelated hneutral hplays
    exact ⟨other, hother, hsame.equalApart⟩
  · intro other hplays
    obtain ⟨final, hfinal, hsame⟩ :=
      hbisimulation.symm.plays hrelated hneutral hplays
    exact ⟨final, hfinal, hsame.equalApart⟩

end Runs

section Revoked

open Deployment

/-- The session of the seller is revoked: its account is cleared in place. -/
def revoked : State :=
  bound.write sellerSession (.session (sellerAccount 0 0 0).clear)

theorem revoked_steps :
    step sampleRuntime registered (revokeFor seller sellerSession) =
        .ok revoked ∧
      step sampleRuntime revoked (registerFor seller sellerSession 100 []) =
        .ok registered := by
  decide +kernel

def revokedTrace : Trace :=
  ⟨registered, revokeFor seller sellerSession, revoked⟩ :: registeredTrace

theorem revoked_run :
    Run (system sampleRuntime) funded revokedTrace revoked :=
  registered_run.accept revoked_steps.1

/-- Registered again, the account is the same whether it was closed or not. -/
theorem close_session_neutral_revoked :
    ∃ other, Plays (system sampleRuntime) (revoked.close sellerSession)
        [.call (registerFor seller sellerSession 100 []) true] other ∧
      EqualApart sellerSession registered other := by
  have hneutral : AllowedAll (Neutral sellerSession)
      [.call (registerFor seller sellerSession 100 []) true] := by
    rintro call accepted hmem
    cases List.mem_singleton.mp hmem
    trivial
  have hsession : revoked.session? sellerSession =
      some (sellerAccount 0 0 0).clear := State.view_write_self
  have hclosing := close_session_neutral sampleRuntime_collisionFree
    onlyImages_funded revoked_run (by decide +kernel) hsession rfl
  exact (hclosing.2 _ hneutral).1 _ (.accept .start revoked_steps.2)

end Revoked

end DexterVault.CloseNeutral
