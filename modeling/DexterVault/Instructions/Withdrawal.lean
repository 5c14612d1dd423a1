import DexterVault.Instructions.Setup

/-!
# Withdrawals

`request_withdrawal`, `finalize_withdrawal` and `force_release`.  A withdrawal
is finalized under the vault's passkey once the cooling-off period is over, no
voucher is pending and the balance that remains covers both the locked claims
and the borrowed amount.
-/

namespace DexterVault.Withdrawal

open DexterVault.Machine
open DexterVault.Framing
open DexterVault.Accounts
open DexterVault.Execution
open DexterVault.Webauthn
open DexterVault.Setup

/-! ## request_withdrawal -/

structure RequestWithdrawalArgs extends Assertion where
  amount : U64
  destination : Pubkey
  signedAt : I64
  deriving DecidableEq

def requestWithdrawalMessage (args : RequestWithdrawalArgs) : Bytes :=
  ascii "request_withdrawal" ++ encodeU64 args.amount ++
    args.destination.toList ++ encodeI64 args.signedAt

def requestWithdrawal (runtime : Runtime) (context : Context)
    (vaultKey : Pubkey) (args : RequestWithdrawalArgs) (state : State) :
    Result State := do
  let vault ← loadVault state vaultKey
  requireSupportedVersion vault
  let drift ← okOr
    ((context.unixTimestamp.checkedSub args.signedAt).getD I64.maximum).abs?
    RuntimeError.arithmeticOverflow
  require (drift ≤ I64.saturate 300) VaultError.passkeyVerificationFailed
  verifyPasskeySigned runtime context vault.passkeyPubkey args.clientDataJson
    args.authenticatorData (requestWithdrawalMessage args)
  return state.write vaultKey
    (.vault { vault with
      pendingWithdrawal := some
        { amount := args.amount
          destination := args.destination
          requestedAt := args.signedAt } })

/-- What an accepted request has checked. -/
structure Requested (runtime : Runtime) (context : Context) (vaultKey : Pubkey)
    (args : RequestWithdrawalArgs) (state : State) (vault : Vault) : Prop where
  vaultAt : state.vault? vaultKey = some vault
  drift : (context.unixTimestamp.val - args.signedAt.val).natAbs ≤ 300
  signed : verifyPasskeySigned runtime context vault.passkeyPubkey
    args.clientDataJson args.authenticatorData
    (requestWithdrawalMessage args) = .ok ()

/-- The pending withdrawal that a request stores. -/
def RequestWithdrawalArgs.pending (args : RequestWithdrawalArgs) :
    PendingWithdrawal :=
  ⟨args.amount, args.destination, args.signedAt⟩

theorem requestWithdrawal_ok {runtime : Runtime} {context : Context}
    {vaultKey : Pubkey} {args : RequestWithdrawalArgs} {state next : State}
    (hok : requestWithdrawal runtime context vaultKey args state = .ok next) :
    ∃ vault, Requested runtime context vaultKey args state vault ∧
      next = state.write vaultKey
        (.vault { vault with pendingWithdrawal := some args.pending }) := by
  simp only [requestWithdrawal, loadVault, bind_eq_ok_iff, load_eq_ok_iff,
    okOr_eq_ok_iff, require_eq_ok_iff, pure_eq_ok_iff] at hok
  obtain ⟨vault, hvault, _, _, drift, habs, _, hdrift, _, hsigned, rfl⟩ := hok
  have hlimit : drift.val ≤ 300 := hdrift
  have hexact := I64.abs?_checkedSub_getD habs
    (lt_of_le_of_lt hlimit (by decide))
  exact ⟨vault, ⟨hvault, by omega, hsigned⟩, rfl⟩

theorem requestWithdrawal_quiet {runtime : Runtime} {context : Context}
    {vaultKey : Pubkey} {args : RequestWithdrawalArgs} {state next : State}
    (hok : requestWithdrawal runtime context vaultKey args state = .ok next) :
    Quiet state next := by
  obtain ⟨vault, hrequested, rfl⟩ := requestWithdrawal_ok hok
  exact Quiet.write_vault hrequested.vaultAt rfl

/-! ## finalize_withdrawal -/

structure FinalizeWithdrawal where
  swig : Pubkey
  swigWalletAddress : Pubkey
  vault : Pubkey
  vaultUsdcAta : Pubkey
  deriving DecidableEq

def finalizeWithdrawalMessage (pending : PendingWithdrawal) : Bytes :=
  ascii "finalize_withdrawal" ++ encodeU64 pending.amount ++
    pending.destination.toList

def finalizeWithdrawal (runtime : Runtime) (context : Context)
    (accounts : FinalizeWithdrawal) (args : Assertion) (state : State) :
    Result State := do
  let vault ← loadVault state accounts.vault
  let vaultUsdcAta ← loadTokenAccount state accounts.vaultUsdcAta
  requireAddress accounts.swig vault.swigAddress
  let _ ← requireSwigWallet runtime accounts.swig accounts.swigWalletAddress
  let pending ← okOr vault.pendingWithdrawal VaultError.noPendingWithdrawal
  require (vault.swigAddress ≠ defaultPubkey) VaultError.noPendingWithdrawal
  let elapsedSecs :=
    (context.unixTimestamp.saturatingSub pending.requestedAt).clampToU64
  require (vault.coolingOffSeconds.val ≤ elapsedSecs.val)
    VaultError.coolingOffNotElapsed
  require (vault.pendingVoucherCount = 0) VaultError.pendingVouchersExist
  requireSupportedVersion vault
  require (vaultUsdcAta.owner = accounts.swigWalletAddress)
    VaultError.passkeyVerificationFailed
  let liveBalanceAfter ← okOr (checkedSub vaultUsdcAta.amount pending.amount)
    VaultError.withdrawalWouldViolateReservation
  require (vault.outstandingLockedAmount ≤ liveBalanceAfter)
    VaultError.withdrawalWouldViolateReservation
  let reserved ← okOr
    (checkedAdd vault.outstandingLockedAmount vault.borrowed)
    VaultError.withdrawalWouldViolatePin
  require (reserved ≤ liveBalanceAfter) VaultError.withdrawalWouldViolatePin
  verifyPasskeySigned runtime context vault.passkeyPubkey args.clientDataJson
    args.authenticatorData (finalizeWithdrawalMessage pending)
  return state.write accounts.vault
    (.vault { vault with pendingWithdrawal := none })

/-- What an accepted finalization has checked. -/
structure Finalized (runtime : Runtime) (context : Context)
    (accounts : FinalizeWithdrawal) (args : Assertion) (state : State)
    (vault : Vault) (pending : PendingWithdrawal) (ata : TokenAccount) :
    Prop where
  vaultAt : state.vault? accounts.vault = some vault
  ataAt : state.tokens.lookup accounts.vaultUsdcAta = some ata
  swig : accounts.swig = vault.swigAddress
  swigBound : vault.swigAddress ≠ defaultPubkey
  requested : vault.pendingWithdrawal = some pending
  noVouchers : vault.pendingVoucherCount = 0
  covered : pending.amount.val + vault.outstandingLockedAmount.val +
    vault.borrowed.val ≤ ata.amount.val
  signed : verifyPasskeySigned runtime context vault.passkeyPubkey
    args.clientDataJson args.authenticatorData
    (finalizeWithdrawalMessage pending) = .ok ()

theorem finalizeWithdrawal_ok {runtime : Runtime} {context : Context}
    {accounts : FinalizeWithdrawal} {args : Assertion} {state next : State}
    (hok : finalizeWithdrawal runtime context accounts args state = .ok next) :
    ∃ vault pending ata,
      Finalized runtime context accounts args state vault pending ata ∧
      next = state.write accounts.vault
        (.vault { vault with pendingWithdrawal := none }) := by
  simp only [finalizeWithdrawal, loadVault, loadTokenAccount, requireAddress,
    bind_eq_ok_iff, load_eq_ok_iff, okOr_eq_ok_iff, require_eq_ok_iff,
    pure_eq_ok_iff, checkedSub_eq_some_iff, checkedAdd_eq_some_iff] at hok
  obtain ⟨vault, hvault, ata, hata, _, hswig, _, _, pending, hpending, _, hbound,
    _, _, _, hvouchers, _, _, _, _, balance, ⟨hle, hbalance⟩, _, _, reserved,
    hreserved, _, hpin, _, hsigned, rfl⟩ := hok
  refine ⟨vault, pending, ata, ⟨hvault, hata, hswig, hbound, hpending, hvouchers,
    ?_, hsigned⟩, rfl⟩
  have hpin' : reserved.val ≤ balance.val := hpin
  omega

theorem finalizeWithdrawal_quiet {runtime : Runtime} {context : Context}
    {accounts : FinalizeWithdrawal} {args : Assertion} {state next : State}
    (hok : finalizeWithdrawal runtime context accounts args state = .ok next) :
    Quiet state next := by
  obtain ⟨vault, pending, ata, hfinalized, rfl⟩ := finalizeWithdrawal_ok hok
  exact Quiet.write_vault hfinalized.vaultAt rfl

/-- A finalized withdrawal was requested, by its own time, a cooling-off period
ago. -/
theorem finalizeWithdrawal_elapsed {runtime : Runtime} {context : Context}
    {accounts : FinalizeWithdrawal} {args : Assertion} {state next : State}
    {vault : Vault} {pending : PendingWithdrawal}
    (hok : finalizeWithdrawal runtime context accounts args state = .ok next)
    (hvault : state.vault? accounts.vault = some vault)
    (hpending : vault.pendingWithdrawal = some pending) :
    vault.coolingOffSeconds = 0 ∨
      (vault.coolingOffSeconds.val : ℤ) ≤
        context.unixTimestamp.val - pending.requestedAt.val := by
  simp only [finalizeWithdrawal, loadVault, bind_eq_ok_iff, load_eq_ok_iff,
    okOr_eq_ok_iff, require_eq_ok_iff] at hok
  obtain ⟨found, hfound, _, _, _, _, _, _, stored, hstored, _, _, _, helapsed,
    -⟩ := hok
  obtain rfl : found = vault := Option.some.inj (hfound.symm.trans hvault)
  obtain rfl : stored = pending := Option.some.inj (hstored.symm.trans hpending)
  rw [I64.clampToU64_val] at helapsed
  by_cases hzero : found.coolingOffSeconds = 0
  · exact .inl hzero
  · have hpositive : 0 < found.coolingOffSeconds.val :=
      Nat.pos_of_ne_zero fun hval => hzero (Fin.ext hval)
    exact .inr (I64.le_saturatingSub (by omega) (by omega))

/-! ## force_release -/

def forceReleaseGraceSeconds : I64 := I64.saturate (7 * 24 * 60 * 60)

def forceReleaseMessage (swigAddress : Pubkey) : Bytes :=
  ascii "force_release" ++ swigAddress.toList

/-- `pending_voucher_count - 1` with the count known positive. -/
def predecessor (count : U32) : U32 := saturatingSub count 1

def forceRelease (runtime : Runtime) (context : Context) (vaultKey : Pubkey)
    (args : Assertion) (state : State) : Result State := do
  let vault ← loadVault state vaultKey
  requireSupportedVersion vault
  require (0 < vault.pendingVoucherCount) VaultError.nothingToRelease
  let pending ← okOr vault.pendingWithdrawal VaultError.nothingToRelease
  let waited := max
    (context.unixTimestamp.saturatingSub pending.requestedAt).val 0
  require (forceReleaseGraceSeconds.val ≤ waited) VaultError.forceReleaseTooEarly
  verifyPasskeySigned runtime context vault.passkeyPubkey args.clientDataJson
    args.authenticatorData (forceReleaseMessage vault.swigAddress)
  return state.write vaultKey
    (.vault { vault with
      pendingVoucherCount := predecessor vault.pendingVoucherCount })

/-- What an accepted release has checked. -/
structure Released (runtime : Runtime) (context : Context) (vaultKey : Pubkey)
    (args : Assertion) (state : State) (vault : Vault)
    (pending : PendingWithdrawal) : Prop where
  vaultAt : state.vault? vaultKey = some vault
  positive : 0 < vault.pendingVoucherCount
  requested : vault.pendingWithdrawal = some pending
  waited : forceReleaseGraceSeconds.val ≤
    context.unixTimestamp.val - pending.requestedAt.val
  signed : verifyPasskeySigned runtime context vault.passkeyPubkey
    args.clientDataJson args.authenticatorData
    (forceReleaseMessage vault.swigAddress) = .ok ()

theorem forceRelease_ok {runtime : Runtime} {context : Context}
    {vaultKey : Pubkey} {args : Assertion} {state next : State}
    (hok : forceRelease runtime context vaultKey args state = .ok next) :
    ∃ vault pending,
      Released runtime context vaultKey args state vault pending ∧
      next = state.write vaultKey
        (.vault { vault with
          pendingVoucherCount := predecessor vault.pendingVoucherCount }) := by
  simp only [forceRelease, loadVault, bind_eq_ok_iff, load_eq_ok_iff,
    okOr_eq_ok_iff, require_eq_ok_iff, pure_eq_ok_iff] at hok
  obtain ⟨vault, hvault, _, _, _, hpositive, pending, hpending, _, hwaited, _,
    hsigned, rfl⟩ := hok
  have hgrace : forceReleaseGraceSeconds.val = 604800 := by decide
  have hreached : forceReleaseGraceSeconds.val ≤
      (context.unixTimestamp.saturatingSub pending.requestedAt).val := by omega
  exact ⟨vault, pending, ⟨hvault, hpositive, hpending,
    I64.le_saturatingSub (by omega) hreached, hsigned⟩, rfl⟩

theorem forceRelease_quiet {runtime : Runtime} {context : Context}
    {vaultKey : Pubkey} {args : Assertion} {state next : State}
    (hok : forceRelease runtime context vaultKey args state = .ok next) :
    Quiet state next := by
  obtain ⟨vault, pending, hreleased, rfl⟩ := forceRelease_ok hok
  exact Quiet.write_vault hreleased.vaultAt rfl

end DexterVault.Withdrawal
