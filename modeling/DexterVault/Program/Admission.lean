import DexterVault.Program.Assertions

/-!
# Which operations a vault admits

A passkey-gated call checks the assertion against the passkey of the vault, and
the rest of its checks are about the state and the clock.  Those checks say when
the vault admits an operation: an assertion that the passkey has made for the
operation is accepted exactly then, however often it has been accepted before.
Operations that bind the vault in their message and are left out here are only
admitted by that vault.
-/

namespace DexterVault.Admission

open DexterVault.Machine
open DexterVault.Framing
open DexterVault.Accounts
open DexterVault.Execution
open DexterVault.Webauthn
open DexterVault.Setup
open DexterVault.Withdrawal
open DexterVault.Session
open DexterVault.Credit
open DexterVault.Program
open DexterVault.Operations
open DexterVault.Assertions

/-- What `finalize_withdrawal` checks besides the assertion, for the wallet and
its token account. -/
structure Finalizable (runtime : Runtime) (state : State) (vault : Vault)
    (pending : PendingWithdrawal) (wallet ataKey : Pubkey) (now : I64) :
    Prop where
  requested : vault.pendingWithdrawal = some pending
  swigBound : vault.swigAddress ≠ defaultPubkey
  derived : ∃ bump, runtime.findProgramAddress
    (swigWalletSeeds vault.swigAddress) swigProgramId = some (wallet, bump)
  cooledOff : vault.coolingOffSeconds.val ≤
    (now.saturatingSub pending.requestedAt).clampToU64.val
  noVouchers : vault.pendingVoucherCount = 0
  covered : ∃ ata, state.tokens.lookup ataKey = some ata ∧
    ata.owner = wallet ∧
    pending.amount.val + vault.outstandingLockedAmount.val +
      vault.borrowed.val ≤ ata.amount.val

/-- What `force_release` checks besides the assertion. -/
structure Releasable (vault : Vault) (pending : PendingWithdrawal) (now : I64) :
    Prop where
  requested : vault.pendingWithdrawal = some pending
  positive : 0 < vault.pendingVoucherCount
  waited : forceReleaseGraceSeconds.val ≤
    max (now.saturatingSub pending.requestedAt).val 0

/-- What `open_standby` checks besides the assertion. -/
structure Openable (runtime : Runtime) (state : State) (vault : Vault)
    (financierSwig backerKey : Pubkey) (cap : U64) : Prop where
  positive : 0 < cap
  sameBacker : ∀ existing ∈ vault.standbyBacker, existing = financierSwig
  covers : vault.borrowed ≤ cap
  ledger : ∃ backer, state.standbyBacker? backerKey = some backer ∧
    backer.financierSwig = financierSwig ∧
    runtime.createProgramAddress
      (standbyBackerSeeds financierSwig ++ [encodeU8 backer.bump]) programId =
        some backerKey ∧
    ∃ newAggregate, resizedAggregate backer (replacedCap vault) cap =
      .ok newAggregate

/-- What `close_standby` checks besides the assertion of its user. -/
structure Closable (runtime : Runtime) (state : State) (vault : Vault)
    (backer : Pubkey) (accounts : CloseStandby) : Prop where
  sameBacker : vault.standbyBacker = some backer
  repaid : vault.borrowed = 0
  derived : ∃ bump, runtime.findProgramAddress
    (swigWalletSeeds accounts.financierSwig) swigProgramId =
      some (accounts.financierSwigWalletAddress, bump)
  ledger : ∃ ledger, state.standbyBacker? accounts.standbyBacker = some ledger ∧
    ledger.financierSwig = backer ∧
    runtime.createProgramAddress
      (standbyBackerSeeds accounts.financierSwig ++ [encodeU8 ledger.bump])
      programId = some accounts.standbyBacker

/-- What `revoke_session_key` checks besides the assertion. -/
structure Revocable (runtime : Runtime) (state : State) (vaultKey : Pubkey)
    (vault : Vault) (sessionPubkey : FixedBytes 32)
    (sessionKey counterparty : Pubkey) : Prop where
  counted : 1 ≤ vault.liveSessionCount.val
  session : ∃ session, state.session? sessionKey = some session ∧
    session.version ≠ 0 ∧ session.session.sessionPubkey = sessionPubkey ∧
    SessionAddress runtime vaultKey counterparty session.bump sessionKey

/-- The operation is admitted by the vault at `vaultKey`, at some time and with
some accounts. -/
inductive Admits (runtime : Runtime) (state : State) (vaultKey : Pubkey)
    (vault : Vault) : Operation → Prop
  | requestWithdrawal {amount : U64} {destination : Pubkey} {signedAt : I64} :
      Admits runtime state vaultKey vault
        (.requestWithdrawal amount destination signedAt)
  | finalizeWithdrawal {pending : PendingWithdrawal} {wallet ataKey : Pubkey}
      {now : I64}
      (hfinalizable : Finalizable runtime state vault pending wallet ataKey now) :
      Admits runtime state vaultKey vault
        (.finalizeWithdrawal pending.amount pending.destination)
  | forceRelease {pending : PendingWithdrawal} {now : I64}
      (hreleasable : Releasable vault pending now) :
      Admits runtime state vaultKey vault (.forceRelease vault.swigAddress)
  | rotatePasskey {newPasskeyPubkey : PasskeyPubkey}
      (hcompressed : newPasskeyPubkey.head = 2 ∨ newPasskeyPubkey.head = 3) :
      Admits runtime state vaultKey vault (.rotatePasskey newPasskeyPubkey)
  | openStandby {financierSwig backerKey : Pubkey} {cap : U64}
      (hopenable : Openable runtime state vault financierSwig backerKey cap) :
      Admits runtime state vaultKey vault
        (.openStandby vaultKey financierSwig cap)
  | closeStandby {backer : Pubkey} {accounts : CloseStandby}
      (hclosable : Closable runtime state vault backer accounts) :
      Admits runtime state vaultKey vault (.closeStandby vaultKey backer)
  | revoke {sessionPubkey : FixedBytes 32} {sessionKey counterparty : Pubkey}
      (hrevocable : Revocable runtime state vaultKey vault sessionPubkey
        sessionKey counterparty) :
      Admits runtime state vaultKey vault
        (.revoke programId vaultKey sessionPubkey)

/-- The kinds of operation that `Admits` describes. -/
def described : Kind → Bool
  | .requestWithdrawal | .finalizeWithdrawal | .forceRelease | .rotatePasskey
  | .openStandby | .closeStandby | .revoke => true
  | _ => false

section Accepted

variable {runtime : Runtime} {state next : State} {call : Call}

/-- What an accepted call was accepted for is admitted by the vault. -/
theorem admits_of_accepted {attempt : Presented} {vault : Vault}
    (hok : step runtime state call = .ok next)
    (hattempt : presented state call = some attempt)
    (hvault : state.vault? attempt.vault = some vault)
    (hkind : described attempt.operation.kind = true) :
    Admits runtime state attempt.vault vault attempt.operation := by
  cases presents_of_presented hattempt with
  | requestWithdrawal => exact .requestWithdrawal
  | finalizeWithdrawal hfound hpending =>
      obtain rfl := Option.some.inj (hfound.symm.trans hvault)
      simp only [step, finalizeWithdrawal, loadVault, loadTokenAccount,
        requireAddress, requireSwigWallet, bind_eq_ok_iff, load_eq_ok_iff,
        okOr_eq_ok_iff, require_eq_ok_iff, requireCanonical_eq_ok_iff,
        checkedSub_eq_some_iff, checkedAdd_eq_some_iff] at hok
      obtain ⟨found, hfound, ata, hata, _, hswig, bump, hderived, stored,
        hstored, _, hbound, _, hcooled, _, hvouchers, _, _, _, howner, balance,
        ⟨hle, hbalance⟩, _, _, reserved, hreserved, _, hpin, -⟩ := hok
      obtain rfl := Option.some.inj (hfound.symm.trans hvault)
      obtain rfl := Option.some.inj (hstored.symm.trans hpending)
      have hpin' : reserved.val ≤ balance.val := hpin
      rw [hswig] at hderived
      exact .finalizeWithdrawal ⟨hpending, hbound, ⟨bump, hderived⟩, hcooled,
        hvouchers, ata, hata, howner, by omega⟩
  | forceRelease hfound =>
      obtain rfl := Option.some.inj (hfound.symm.trans hvault)
      simp only [step, forceRelease, loadVault, bind_eq_ok_iff, load_eq_ok_iff,
        okOr_eq_ok_iff, require_eq_ok_iff] at hok
      obtain ⟨found, hfound, _, _, _, hpositive, pending, hpending, _, hwaited,
        -⟩ := hok
      obtain rfl := Option.some.inj (hfound.symm.trans hvault)
      exact .forceRelease ⟨hpending, hpositive, hwaited⟩
  | rotatePasskey =>
      simp only [step, rotatePasskey, requireCompressed, bind_eq_ok_iff,
        require_eq_ok_iff] at hok
      obtain ⟨_, _, _, hcompressed, -⟩ := hok
      exact .rotatePasskey hcompressed
  | openStandby =>
      simp only [step, openStandby, loadVault, loadStandbyBacker,
        requireBackerAddress, requireDerived, bind_eq_ok_iff, load_eq_ok_iff,
        require_eq_ok_iff] at hok
      obtain ⟨found, hfound, backer, hbacker, _, haddress, _, _, _, hpositive, _,
        _, _, hsame, _, hfinancier, _, hcovers, newAggregate, haggregate, -⟩ :=
        hok
      obtain rfl := Option.some.inj (hfound.symm.trans hvault)
      exact .openStandby ⟨hpositive, hsame, hcovers, backer, hbacker, hfinancier,
        haddress, newAggregate, haggregate⟩
  | @closeStandby _ accounts _ _ backer hcloser hfound hbacker =>
      obtain rfl := Option.some.inj (hfound.symm.trans hvault)
      simp only [step, closeStandby, closeStandbyCore, loadVault,
        loadStandbyBacker, requireBackerAddress, requireDerived,
        requireSwigWallet, bind_eq_ok_iff, load_eq_ok_iff, okOr_eq_ok_iff,
        require_eq_ok_iff, requireCanonical_eq_ok_iff, pure_eq_ok_iff] at hok
      obtain ⟨found, hfound, ledger, hledger, bump, hderived, _, haddress, _, _,
        _, _, _, ⟨_, _, stored, hstored, _, hrepaid, _, hsame, -⟩, -⟩ := hok
      obtain rfl := Option.some.inj (hfound.symm.trans hvault)
      obtain rfl := Option.some.inj (hstored.symm.trans hbacker)
      exact @Admits.closeStandby _ _ _ _ _ accounts
        ⟨hbacker, hrepaid, ⟨bump, hderived⟩, ledger, hledger, hsame, haddress⟩
  | revoke hsession =>
      obtain ⟨found, stored, count, hrevoked, hcount, -⟩ :=
        revokeSessionKey_ok hok
      obtain rfl := Option.some.inj (hrevoked.vaultAt.symm.trans hvault)
      obtain rfl := Option.some.inj (hrevoked.sessionAt.symm.trans hsession)
      exact .revoke ⟨by omega, stored, hsession, hrevoked.registered, rfl,
        hrevoked.address⟩
  | setSwig | setSwigAtomic | provePasskey | register | recoverAbandonedLock =>
      cases hkind

/-! An operation that the vault admits goes through, one lemma for each kind. -/

section Admitted

variable {context : Context} {vaultKey : Pubkey} {assertion : Assertion}
  {vault : Vault}

theorem requestWithdrawal_admitted {amount : U64} {destination : Pubkey}
    {signedAt : I64} (hvault : state.vault? vaultKey = some vault)
    (hsupported : requireSupportedVersion vault = .ok ())
    (hverified : Presented.Verified runtime context vault.passkeyPubkey
      ⟨vaultKey, assertion,
        .requestWithdrawal amount destination signedAt⟩) :
    ∃ next, requestWithdrawal runtime { context with unixTimestamp := signedAt }
      vaultKey ⟨assertion, amount, destination, signedAt⟩ state = .ok next := by
  have hdrift : ((signedAt.checkedSub signedAt).getD I64.maximum).abs? =
      some I64.zero := by
    rw [I64.checkedSub, sub_self]
    decide
  have hlimit : I64.zero ≤ I64.saturate 300 := by decide
  apply Exists.intro
  simp only [requestWithdrawal, loadVault, bind_eq_ok_iff, load_eq_ok_iff,
    okOr_eq_ok_iff, require_eq_ok_iff, pure_eq_ok_iff]
  exact ⟨vault, hvault, (), hsupported, I64.zero, hdrift, (), hlimit, (),
    hverified, rfl⟩

theorem finalizeWithdrawal_admitted {pending : PendingWithdrawal}
    {wallet ataKey : Pubkey} {now : I64}
    (hvault : state.vault? vaultKey = some vault)
    (hsupported : requireSupportedVersion vault = .ok ())
    (hfinalizable : Finalizable runtime state vault pending wallet ataKey now)
    (hverified : Presented.Verified runtime context vault.passkeyPubkey
      ⟨vaultKey, assertion,
        .finalizeWithdrawal pending.amount pending.destination⟩) :
    ∃ next, finalizeWithdrawal runtime { context with unixTimestamp := now }
      ⟨vault.swigAddress, wallet, vaultKey, ataKey⟩ assertion state =
        .ok next := by
  obtain ⟨bump, hderived⟩ := hfinalizable.derived
  obtain ⟨ata, hata, howner, hcovered⟩ := hfinalizable.covered
  have hbalance : checkedSub ata.amount pending.amount =
      some (saturatingSub ata.amount pending.amount) :=
    checkedSub_eq_some_iff.mpr ⟨by omega, rfl⟩
  have hfits := ata.amount.isLt
  have hreserved : checkedAdd vault.outstandingLockedAmount vault.borrowed =
      some ⟨vault.outstandingLockedAmount.val + vault.borrowed.val,
        by omega⟩ := checkedAdd_eq_some_iff.mpr rfl
  have hlocked : vault.outstandingLockedAmount ≤
      saturatingSub ata.amount pending.amount := by
    rw [Fin.le_def, saturatingSub_val]
    omega
  apply Exists.intro
  simp only [finalizeWithdrawal, loadVault, loadTokenAccount, requireAddress,
    requireSwigWallet, bind_eq_ok_iff, load_eq_ok_iff, okOr_eq_ok_iff,
    require_eq_ok_iff, requireCanonical_eq_ok_iff, pure_eq_ok_iff]
  refine ⟨vault, hvault, ata, hata, (), rfl, bump, hderived, pending,
    hfinalizable.requested, (), hfinalizable.swigBound, (),
    hfinalizable.cooledOff, (), hfinalizable.noVouchers, (), hsupported, (),
    howner, _, hbalance, (), hlocked, _, hreserved, (), ?_, (), hverified, rfl⟩
  rw [Fin.le_def, saturatingSub_val]
  change vault.outstandingLockedAmount.val + vault.borrowed.val ≤ _
  omega

theorem forceRelease_admitted {pending : PendingWithdrawal} {now : I64}
    (hvault : state.vault? vaultKey = some vault)
    (hsupported : requireSupportedVersion vault = .ok ())
    (hreleasable : Releasable vault pending now)
    (hverified : Presented.Verified runtime context vault.passkeyPubkey
      ⟨vaultKey, assertion, .forceRelease vault.swigAddress⟩) :
    ∃ next, forceRelease runtime { context with unixTimestamp := now } vaultKey
      assertion state = .ok next := by
  apply Exists.intro
  simp only [forceRelease, loadVault, bind_eq_ok_iff, load_eq_ok_iff,
    okOr_eq_ok_iff, require_eq_ok_iff, pure_eq_ok_iff]
  exact ⟨vault, hvault, (), hsupported, (), hreleasable.positive, pending,
    hreleasable.requested, (), hreleasable.waited, (), hverified, rfl⟩

theorem rotatePasskey_admitted {newPasskeyPubkey : PasskeyPubkey}
    (hvault : state.vault? vaultKey = some vault)
    (hsupported : requireSupportedVersion vault = .ok ())
    (hcompressed : requireCompressed newPasskeyPubkey = .ok ())
    (hverified : Presented.Verified runtime context vault.passkeyPubkey
      ⟨vaultKey, assertion, .rotatePasskey newPasskeyPubkey⟩) :
    ∃ next, rotatePasskey runtime context vaultKey
      ⟨assertion, newPasskeyPubkey⟩ state = .ok next := by
  apply Exists.intro
  simp only [rotatePasskey, loadVault, bind_eq_ok_iff, load_eq_ok_iff,
    pure_eq_ok_iff]
  exact ⟨vault, hvault, (), hcompressed, (), hsupported, (), hverified, rfl⟩

theorem openStandby_admitted {financierSwig backerKey : Pubkey} {cap : U64}
    (hvault : state.vault? vaultKey = some vault)
    (hsupported : requireVersionV5OrV6 vault = .ok ())
    (hopenable : Openable runtime state vault financierSwig backerKey cap)
    (hverified : Presented.Verified runtime context vault.passkeyPubkey
      ⟨vaultKey, assertion, .openStandby vaultKey financierSwig cap⟩) :
    ∃ next, openStandby runtime context ⟨vaultKey, financierSwig, backerKey⟩
      ⟨assertion, cap⟩ state = .ok next := by
  obtain ⟨backer, hbacker, hfinancier, haddress, newAggregate, haggregate⟩ :=
    hopenable.ledger
  apply Exists.intro
  simp only [openStandby, loadVault, loadStandbyBacker, requireBackerAddress,
    requireDerived, bind_eq_ok_iff, load_eq_ok_iff, require_eq_ok_iff,
    pure_eq_ok_iff]
  exact ⟨vault, hvault, backer, hbacker, (), haddress, (), hsupported, (),
    hopenable.positive, (), hverified, (), hopenable.sameBacker, (), hfinancier,
    (), hopenable.covers, newAggregate, haggregate, rfl⟩

theorem closeStandby_admitted {backer : Pubkey} {accounts : CloseStandby}
    (hvault : state.vault? vaultKey = some vault)
    (hsupported : requireVersionV5OrV6 vault = .ok ())
    (hclosable : Closable runtime state vault backer accounts)
    (hverified : Presented.Verified runtime context vault.passkeyPubkey
      ⟨vaultKey, assertion, .closeStandby vaultKey backer⟩) :
    ∃ next, closeStandby runtime context { accounts with vault := vaultKey }
      ⟨assertion, .user⟩ state = .ok next := by
  obtain ⟨bump, hderived⟩ := hclosable.derived
  obtain ⟨ledger, hledger, hsame, haddress⟩ := hclosable.ledger
  apply Exists.intro
  simp only [closeStandby, closeStandbyCore, closerConsent, loadVault,
    loadStandbyBacker, requireBackerAddress, requireDerived, requireSwigWallet,
    bind_eq_ok_iff, load_eq_ok_iff, okOr_eq_ok_iff, require_eq_ok_iff,
    requireCanonical_eq_ok_iff, pure_eq_ok_iff]
  exact ⟨vault, hvault, ledger, hledger, bump, hderived, (), haddress, backer,
    hclosable.sameBacker, (), hverified, _, ⟨(), hsupported, backer,
      hclosable.sameBacker, (), hclosable.repaid, (), hsame, rfl⟩, rfl⟩

theorem revokeSessionKey_admitted {session : SessionAccount}
    {sessionKey counterparty : Pubkey}
    (hvault : state.vault? vaultKey = some vault)
    (hversion : requireVersionV6 vault = .ok ())
    (hcounted : 1 ≤ vault.liveSessionCount.val)
    (hsession : state.session? sessionKey = some session)
    (hregistered : session.version ≠ 0)
    (haddress : SessionAddress runtime vaultKey counterparty session.bump
      sessionKey)
    (hverified : Presented.Verified runtime context vault.passkeyPubkey
      ⟨vaultKey, assertion,
        .revoke programId vaultKey session.session.sessionPubkey⟩) :
    ∃ next, revokeSessionKey runtime context ⟨vaultKey, sessionKey⟩
      ⟨assertion, counterparty⟩ state = .ok next := by
  have hcount : checkedSub vault.liveSessionCount 1 =
      some (saturatingSub vault.liveSessionCount 1) :=
    checkedSub_eq_some_iff.mpr ⟨hcounted, rfl⟩
  apply Exists.intro
  simp only [revokeSessionKey, requireSessionAddress, loadVault, loadSession,
    bind_eq_ok_iff, load_eq_ok_iff, okOr_eq_ok_iff, require_eq_ok_iff,
    pure_eq_ok_iff]
  exact ⟨vault, hvault, session, hsession, (), haddress, (), hversion, (),
    hregistered, (), hverified, _, hcount, rfl⟩

end Admitted

/-- Conversely an assertion that the passkey of the vault has made, in whatever
transaction, is accepted as soon as the vault admits the operation. -/
theorem accepted_of_admits {context : Context} {vaultKey : Pubkey}
    {vault : Vault} {assertion : Assertion} {operation : Operation}
    (hvault : state.vault? vaultKey = some vault)
    (hversion : vault.version = vaultVersionV6)
    (hverified : Presented.Verified runtime context vault.passkeyPubkey
      ⟨vaultKey, assertion, operation⟩)
    (hadmits : Admits runtime state vaultKey vault operation) :
    ∃ call next, step runtime state call = .ok next ∧
      presented state call = some ⟨vaultKey, assertion, operation⟩ := by
  have hsupported : requireSupportedVersion vault = .ok () :=
    require_eq_ok_iff.mpr (.inl hversion)
  have hcredit : requireVersionV5OrV6 vault = .ok () :=
    require_eq_ok_iff.mpr (.inr hversion)
  cases hadmits with
  | requestWithdrawal =>
      obtain ⟨next, hok⟩ :=
        requestWithdrawal_admitted hvault hsupported hverified
      exact ⟨.requestWithdrawal _ _ _, next, hok, rfl⟩
  | finalizeWithdrawal hfinalizable =>
      obtain ⟨next, hok⟩ :=
        finalizeWithdrawal_admitted hvault hsupported hfinalizable hverified
      refine ⟨.finalizeWithdrawal _ _ _, next, hok, ?_⟩
      simp only [presented, hvault, hfinalizable.requested,
        Option.bind_eq_bind, Option.bind_some, Option.pure_def]
  | forceRelease hreleasable =>
      obtain ⟨next, hok⟩ :=
        forceRelease_admitted hvault hsupported hreleasable hverified
      refine ⟨.forceRelease _ _ _, next, hok, ?_⟩
      simp only [presented, hvault, Option.bind_eq_bind, Option.bind_some,
        Option.pure_def]
  | rotatePasskey hcompressed =>
      obtain ⟨next, hok⟩ := rotatePasskey_admitted hvault hsupported
        (require_eq_ok_iff.mpr hcompressed) hverified
      exact ⟨.rotatePasskey _ _ _, next, hok, rfl⟩
  | openStandby hopenable =>
      obtain ⟨next, hok⟩ :=
        openStandby_admitted hvault hcredit hopenable hverified
      exact ⟨.openStandby _ _ _, next, hok, rfl⟩
  | @closeStandby _ accounts hclosable =>
      obtain ⟨next, hok⟩ :=
        closeStandby_admitted hvault hcredit hclosable hverified
      refine ⟨.closeStandby _ _ _, next, hok, ?_⟩
      simp only [presented, hvault, hclosable.sameBacker, Option.bind_eq_bind,
        Option.bind_some, Option.pure_def]
  | revoke hrevocable =>
      obtain ⟨session, hsession, hregistered, rfl, haddress⟩ :=
        hrevocable.session
      obtain ⟨next, hok⟩ := revokeSessionKey_admitted hvault
        (require_eq_ok_iff.mpr hversion) hrevocable.counted hsession hregistered
        haddress hverified
      refine ⟨.revokeSessionKey _ _ _, next, hok, ?_⟩
      simp only [presented, hsession, Option.bind_eq_bind, Option.bind_some,
        Option.pure_def]

end Accepted

end DexterVault.Admission
