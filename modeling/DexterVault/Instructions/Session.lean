import DexterVault.Instructions.Setup
import Mathlib.Data.List.Sort

/-!
# Sessions

`register_session_key` with its overcommit gate, `revoke_session_key` and
`close_session`.  The gate walks over the sibling accounts the caller passes:
it sums the caps of the live ones and clears the expired ones.
-/

namespace DexterVault.Session

open DexterVault.Machine
open DexterVault.Framing
open DexterVault.Accounts
open DexterVault.Execution
open DexterVault.Webauthn
open DexterVault.Setup

/-- The byte-lexicographic order of addresses. -/
def PubkeyLt (left right : Pubkey) : Prop := left.toList < right.toList

instance (left right : Pubkey) : Decidable (PubkeyLt left right) :=
  inferInstanceAs (Decidable (left.toList < right.toList))

theorem PubkeyLt.ne {left right : Pubkey} (hlt : PubkeyLt left right) :
    left ≠ right := by
  rintro rfl
  exact lt_irrefl _ hlt

theorem PubkeyLt.trans {left middle right : Pubkey}
    (hleft : PubkeyLt left middle) (hright : PubkeyLt middle right) :
    PubkeyLt left right :=
  lt_trans (a := left.toList) hleft hright

/-- V6 vaults only: the others carry no session accounts. -/
def requireVersionV6 (vault : Vault) : Result Unit :=
  require (vault.version = vaultVersionV6) VaultError.unsupportedVaultVersion

/-! ## The overcommit gate -/

/-- The accumulators of the loop over `remaining_accounts`, with the state to
which the cleared siblings have been written back. -/
structure Gate where
  siblingSum : U64
  liveCounted : U8
  swept : U8
  prev : Option Pubkey
  state : State

def Gate.start (state : State) : Gate where
  siblingSum := 0
  liveCounted := 0
  swept := 0
  prev := none
  state := state

def gateStep (runtime : Runtime) (vaultKey sessionKey : Pubkey) (now : I64)
    (gate : Gate) (acct : AccountMeta) : Result Gate := do
  require (∀ prev ∈ gate.prev, PubkeyLt prev acct.key)
    VaultError.sessionAccountsNotSorted
  require (acct.key ≠ sessionKey) VaultError.sessionAccountMisderived
  let sib ← okOr (gate.state.session? acct.key) VaultError.sessionAccountForeign
  require (sib.vault = vaultKey) VaultError.sessionAccountForeign
  require
    (SessionAddress runtime vaultKey sib.session.allowedCounterparty sib.bump
      acct.key)
    VaultError.sessionAccountMisderived
  if now < sib.session.expiresAt then do
    let siblingSum ← okOr (checkedAdd gate.siblingSum sib.session.maxAmount)
      VaultError.sessionWouldOvercommitVault
    let liveCounted ← okOr (checkedAdd gate.liveCounted 1)
      VaultError.sessionWouldOvercommitVault
    return { gate with
      siblingSum := siblingSum
      liveCounted := liveCounted
      prev := some acct.key }
  else do
    -- an expired sibling is swept: the cleared body is written back at once
    require (acct.isWritable = true) VaultError.sessionAccountNotWritable
    let swept ← okOr (checkedAdd gate.swept 1)
      VaultError.sessionWouldOvercommitVault
    return { gate with
      swept := swept
      prev := some acct.key
      state := gate.state.write acct.key (.session sib.clear) }

def overcommitGate (runtime : Runtime) (vaultKey sessionKey : Pubkey)
    (now : I64) (remainingAccounts : List AccountMeta) (state : State) :
    Result Gate :=
  remainingAccounts.foldlM (gateStep runtime vaultKey sessionKey now)
    (Gate.start state)

/-! ## register_session_key -/

structure RegisterSessionKey where
  vault : Pubkey
  vaultUsdcAta : Pubkey
  swig : Pubkey
  swigWalletAddress : Pubkey
  session : Pubkey
  payer : Pubkey
  remainingAccounts : List AccountMeta
  deriving DecidableEq

structure RegisterSessionKeyArgs extends Assertion where
  sessionPubkey : FixedBytes 32
  maxAmount : U64
  expiresAt : I64
  allowedCounterparty : Pubkey
  nonce : U32
  maxRevolvingCapacity : U64
  deriving DecidableEq

/-- `OTS_SESSION_REGISTER_V2`, padded with NULs to 32 bytes. -/
def registerDomain : Bytes :=
  ascii "OTS_SESSION_REGISTER_V2" ++ List.replicate 9 0

def buildRegistrationMessage (program vaultPda : Pubkey)
    (args : RegisterSessionKeyArgs) : Bytes :=
  registerDomain ++ program.toList ++ vaultPda.toList ++
    args.sessionPubkey.toList ++ encodeU64 args.maxAmount ++
    encodeI64 args.expiresAt ++ args.allowedCounterparty.toList ++
    encodeU32 args.nonce ++ encodeU64 args.maxRevolvingCapacity

/-- The registration that an accepted call writes: the endorsed scope, with
every meter reset. -/
def RegisterSessionKeyArgs.registration (args : RegisterSessionKeyArgs) :
    SessionRegistration where
  sessionPubkey := args.sessionPubkey
  maxAmount := args.maxAmount
  expiresAt := args.expiresAt
  allowedCounterparty := args.allowedCounterparty
  nonce := args.nonce
  spent := 0
  currentOutstanding := 0
  maxRevolvingCapacity := args.maxRevolvingCapacity
  crystallizedCumulative := 0
  lastLockedSequence := 0

/-- First touch stamps version, bump and vault; a replacement keeps them. -/
def writtenSession (session : SessionAccount) (bump : U8) (vaultKey : Pubkey)
    (args : RegisterSessionKeyArgs) : SessionAccount :=
  if session.version = 0 then
    { version := sessionVersionV1
      bump := bump
      vault := vaultKey
      session := args.registration }
  else
    { session with session := args.registration }

/-- The count after the sweep and, for a new session, the first touch. -/
def resyncedCount (liveSessionCount swept : U8) (isNew : Bool) : Result U8 := do
  let count ← okOr (checkedSub liveSessionCount swept)
    VaultError.incompleteSessionSet
  if isNew then okOr (checkedAdd count 1) VaultError.sessionCountAtMax
  else return count

def registerSessionKey (runtime : Runtime) (context : Context)
    (accounts : RegisterSessionKey) (args : RegisterSessionKeyArgs)
    (state : State) : Result State := do
  let vault ← loadVault state accounts.vault
  let vaultUsdcAta ← loadTokenAccount state accounts.vaultUsdcAta
  let session ← loadOrInit Account.session? SessionAccount.zeroed state
    accounts.session
  let bump ← requireCanonical runtime
    (sessionSeeds accounts.vault args.allowedCounterparty) programId
    accounts.session
  requireAddress accounts.swig vault.swigAddress
  let _ ← requireSwigWallet runtime accounts.swig accounts.swigWalletAddress
  requireSigner context accounts.payer
  -- A. expiry, cap and revolving capacity
  requireVersionV6 vault
  require (0 < args.maxAmount) VaultError.sessionCapZero
  require (0 < args.maxRevolvingCapacity) VaultError.revolvingCapacityZero
  let now := context.unixTimestamp
  require (now < args.expiresAt) VaultError.sessionExpiryInPast
  -- B. the token account belongs to the swig wallet
  require (vaultUsdcAta.owner = accounts.swigWalletAddress)
    VaultError.passkeyVerificationFailed
  -- C. the overcommit gate
  let isNew := decide (session.version = 0)
  require (vault.liveSessionCount.val < 255) VaultError.sessionCountAtMax
  let gate ← overcommitGate runtime accounts.vault accounts.session now
    accounts.remainingAccounts state
  let totalPassed ← okOr (checkedAdd gate.liveCounted gate.swept)
    VaultError.incompleteSessionSet
  let expectedTotal ← okOr
    (checkedSub vault.liveSessionCount (if isNew then 0 else 1))
    VaultError.incompleteSessionSet
  require (totalPassed = expectedTotal) VaultError.incompleteSessionSet
  let combined ← okOr
    ((checkedAdd gate.siblingSum args.maxAmount).bind
      fun sum => checkedAdd sum vault.outstandingLockedAmount)
    VaultError.sessionWouldOvercommitVault
  require (combined ≤ vaultUsdcAta.amount)
    VaultError.sessionWouldOvercommitVault
  -- D. the passkey endorsed this registration
  verifyPasskeySigned runtime context vault.passkeyPubkey args.clientDataJson
    args.authenticatorData
    (buildRegistrationMessage programId accounts.vault args)
  -- E. count re-sync and the full overwrite
  let count ← resyncedCount vault.liveSessionCount gate.swept isNew
  return (gate.state.write accounts.session
      (.session (writtenSession session bump accounts.vault args))).write
    accounts.vault (.vault { vault with liveSessionCount := count })

/-! ## revoke_session_key -/

structure RevokeSessionKey where
  vault : Pubkey
  session : Pubkey
  deriving DecidableEq

structure RevokeSessionKeyArgs extends Assertion where
  allowedCounterparty : Pubkey
  deriving DecidableEq

/-- `OTS_SESSION_REVOKE_V1`, padded with NULs to 32 bytes. -/
def revokeDomain : Bytes :=
  ascii "OTS_SESSION_REVOKE_V1" ++ List.replicate 11 0

def buildRevocationMessage (program vaultPda : Pubkey)
    (sessionPubkey : FixedBytes 32) : Bytes :=
  revokeDomain ++ program.toList ++ vaultPda.toList ++ sessionPubkey.toList

/-- `seeds = [SESSION_SEED, vault, counterparty], bump = session.bump`. -/
def requireSessionAddress (runtime : Runtime) (vaultKey counterparty : Pubkey)
    (session : SessionAccount) (sessionKey : Pubkey) : Result Unit :=
  require (SessionAddress runtime vaultKey counterparty session.bump sessionKey)
    RuntimeError.constraintSeeds

def revokeSessionKey (runtime : Runtime) (context : Context)
    (accounts : RevokeSessionKey) (args : RevokeSessionKeyArgs) (state : State) :
    Result State := do
  let vault ← loadVault state accounts.vault
  let session ← loadSession state accounts.session
  requireSessionAddress runtime accounts.vault args.allowedCounterparty session
    accounts.session
  requireVersionV6 vault
  require (session.version ≠ 0) VaultError.noActiveSession
  verifyPasskeySigned runtime context vault.passkeyPubkey args.clientDataJson
    args.authenticatorData
    (buildRevocationMessage programId accounts.vault
      session.session.sessionPubkey)
  let count ← okOr (checkedSub vault.liveSessionCount 1)
    VaultError.incompleteSessionSet
  return (state.write accounts.session (.session session.clear)).write
    accounts.vault (.vault { vault with liveSessionCount := count })

/-! ## close_session -/

structure CloseSession where
  vault : Pubkey
  session : Pubkey
  dexterAuthority : Pubkey
  deriving DecidableEq

structure CloseSessionArgs where
  allowedCounterparty : Pubkey
  deriving DecidableEq

def closeSession (runtime : Runtime) (context : Context)
    (accounts : CloseSession) (args : CloseSessionArgs) (state : State) :
    Result State := do
  let vault ← loadVault state accounts.vault
  let session ← loadSession state accounts.session
  requireDexterAuthority context vault accounts.dexterAuthority
  requireSessionAddress runtime accounts.vault args.allowedCounterparty session
    accounts.session
  requireVersionV6 vault
  require (session.version = 0) VaultError.sessionStillLive
  return state.close accounts.session

/-! ## What accepted calls have checked -/

theorem resyncedCount_ok {liveSessionCount swept count : U8} {isNew : Bool}
    (hok : resyncedCount liveSessionCount swept isNew = .ok count) :
    swept.val ≤ liveSessionCount.val ∧
      count.val = liveSessionCount.val - swept.val + isNew.toNat := by
  simp only [resyncedCount, bind_eq_ok_iff, okOr_eq_ok_iff,
    checkedSub_eq_some_iff] at hok
  obtain ⟨remaining, ⟨hle, hremaining⟩, hok⟩ := hok
  cases isNew with
  | false =>
      simp only [Bool.false_eq_true, if_false, pure_eq_ok_iff] at hok
      subst hok
      exact ⟨hle, hremaining⟩
  | true =>
      simp only [if_true, okOr_eq_ok_iff, checkedAdd_eq_some_iff] at hok
      exact ⟨hle, by rw [hok, hremaining]; rfl⟩

/-- What an accepted revocation has checked. -/
structure Revoked (runtime : Runtime) (context : Context)
    (accounts : RevokeSessionKey) (args : RevokeSessionKeyArgs) (state : State)
    (vault : Vault) (session : SessionAccount) : Prop where
  vaultAt : state.vault? accounts.vault = some vault
  sessionAt : state.session? accounts.session = some session
  address : SessionAddress runtime accounts.vault args.allowedCounterparty
    session.bump accounts.session
  versionV6 : vault.version = vaultVersionV6
  registered : session.version ≠ 0
  signed : verifyPasskeySigned runtime context vault.passkeyPubkey
    args.clientDataJson args.authenticatorData
    (buildRevocationMessage programId accounts.vault
      session.session.sessionPubkey) = .ok ()

theorem revokeSessionKey_ok {runtime : Runtime} {context : Context}
    {accounts : RevokeSessionKey} {args : RevokeSessionKeyArgs}
    {state next : State}
    (hok : revokeSessionKey runtime context accounts args state = .ok next) :
    ∃ vault session count,
      Revoked runtime context accounts args state vault session ∧
      vault.liveSessionCount.val = count.val + 1 ∧
      next = (state.write accounts.session (.session session.clear)).write
        accounts.vault (.vault { vault with liveSessionCount := count }) := by
  simp only [revokeSessionKey, loadVault, loadSession, requireSessionAddress,
    requireVersionV6, bind_eq_ok_iff, load_eq_ok_iff, require_eq_ok_iff,
    okOr_eq_ok_iff, checkedSub_eq_some_iff, pure_eq_ok_iff] at hok
  obtain ⟨vault, hvault, session, hsession, _, haddress, _, hversion, _,
    hregistered, _, hsigned, count, ⟨hle, hcount⟩, rfl⟩ := hok
  refine ⟨vault, session, count, ⟨hvault, hsession, haddress, hversion,
    hregistered, hsigned⟩, ?_, rfl⟩
  have hone : (1 : U8).val = 1 := rfl
  omega

/-- A closed session was a cleared one. -/
theorem closeSession_ok {runtime : Runtime} {context : Context}
    {accounts : CloseSession} {args : CloseSessionArgs} {state next : State}
    (hok : closeSession runtime context accounts args state = .ok next) :
    ∃ session, state.session? accounts.session = some session ∧
      session.version = 0 ∧ next = state.close accounts.session := by
  simp only [closeSession, loadVault, loadSession, bind_eq_ok_iff,
    load_eq_ok_iff, require_eq_ok_iff, pure_eq_ok_iff] at hok
  obtain ⟨_, _, session, hsession, _, _, _, _, _, _, _, hversion, rfl⟩ := hok
  exact ⟨session, hsession, hversion, rfl⟩

end DexterVault.Session
