import DexterVault.Instructions.Session

/-!
# Vouchers

`settle_voucher` opens and closes tabs; `settle_tab_voucher` and `lock_voucher`
are the two terminal paths of a voucher signed by a session key.  Both accept a
voucher only above the frontier `max(spent, crystallized_cumulative)`, and each
advances its own odometer.
-/

namespace DexterVault.Voucher

open DexterVault.Machine
open DexterVault.Framing
open DexterVault.Accounts
open DexterVault.Execution
open DexterVault.Introspection
open DexterVault.Setup
open DexterVault.Session

/-! ## settle_voucher -/

structure SettleVoucher where
  vault : Pubkey
  dexterAuthority : Pubkey
  session : Option Pubkey
  deriving DecidableEq

structure SettleVoucherArgs where
  amount : U64
  increment : Bool
  allowedCounterparty : Pubkey
  deriving DecidableEq

/-- The optional session account: deserialized and checked against its seeds
when it is passed. -/
def loadOptionalSession (runtime : Runtime) (vaultKey counterparty : Pubkey)
    (state : State) : Option Pubkey → Result (Option (Pubkey × SessionAccount))
  | none => .ok none
  | some key => do
      let session ← loadSession state key
      requireSessionAddress runtime vaultKey counterparty session key
      return some (key, session)

def settleVoucher (runtime : Runtime) (context : Context)
    (accounts : SettleVoucher) (args : SettleVoucherArgs) (state : State) :
    Result State := do
  let vault ← loadVault state accounts.vault
  requireDexterAuthority context vault accounts.dexterAuthority
  let passed ← loadOptionalSession runtime accounts.vault
    args.allowedCounterparty state accounts.session
  requireVersionV6 vault
  if args.increment then do
    let vault := { vault with
      pendingVoucherCount := saturatingAdd vault.pendingVoucherCount 1 }
    let found ← okOr passed VaultError.noActiveSession
    let session := found.2
    require (session.version ≠ 0) VaultError.noActiveSession
    let newOutstanding ← okOr
      (checkedAdd session.session.currentOutstanding args.amount)
      VaultError.revolvingCapacityExceeded
    require (newOutstanding ≤ session.session.maxRevolvingCapacity)
      VaultError.revolvingCapacityExceeded
    return (state.write found.1
        (.session { session with
          session := { session.session with
            currentOutstanding := newOutstanding } })).write accounts.vault
      (.vault vault)
  else do
    require (0 < vault.pendingVoucherCount) VaultError.noPendingWithdrawal
    return state.write accounts.vault
      (.vault { vault with
        pendingVoucherCount := saturatingSub vault.pendingVoucherCount 1 })

/-! ## The voucher message -/

/-- What the two terminal paths read of a voucher. -/
structure VoucherPayload where
  channelId : FixedBytes 32
  cumulativeAmount : U64
  sequenceNumber : U32
  deriving DecidableEq

/-- The 44-byte message a session key signs. -/
def voucherMessage (payload : VoucherPayload) : Bytes :=
  payload.channelId.toList ++ encodeU64 payload.cumulativeAmount ++
    encodeU32 payload.sequenceNumber

/-- `max(spent, crystallized_cumulative)`. -/
def frontier (session : SessionRegistration) : U64 :=
  max session.spent session.crystallizedCumulative

/-! ## settle_tab_voucher -/

structure SettleTabVoucher where
  swig : Pubkey
  swigWalletAddress : Pubkey
  vault : Pubkey
  session : Pubkey
  dexterAuthority : Pubkey
  deriving DecidableEq

structure SettleTabVoucherArgs extends VoucherPayload where
  allowedCounterparty : Pubkey
  deriving DecidableEq

/-- The meters after a settlement: `spent` advances to the voucher, and the
increment leaves the revolving exposure. -/
def settledRegistration (session : SessionRegistration)
    (cumulativeAmount increment : U64) : SessionRegistration :=
  { session with
    spent := cumulativeAmount
    currentOutstanding := saturatingSub session.currentOutstanding increment }

def settleTabVoucher (runtime : Runtime) (context : Context)
    (accounts : SettleTabVoucher) (args : SettleTabVoucherArgs) (state : State) :
    Result State := do
  let vault ← loadVault state accounts.vault
  let account ← loadSession state accounts.session
  requireAddress accounts.swig vault.swigAddress
  let _ ← requireSwigWallet runtime accounts.swig accounts.swigWalletAddress
  requireDexterAuthority context vault accounts.dexterAuthority
  requireSessionAddress runtime accounts.vault args.allowedCounterparty account
    accounts.session
  requireVersionV6 vault
  require (vault.swigAddress ≠ defaultPubkey)
    VaultError.passkeyVerificationFailed
  require (account.version ≠ 0) VaultError.noActiveSession
  let session := account.session
  require (context.unixTimestamp < session.expiresAt)
    VaultError.sessionExpiryInPast
  require (frontier session < args.cumulativeAmount)
    VaultError.lockRangeAlreadyClaimed
  require (args.cumulativeAmount ≤ session.maxAmount)
    VaultError.invalidVoucherSignature
  verifySessionSigned context session.sessionPubkey
    (voucherMessage args.toVoucherPayload)
  let increment ← okOr (checkedSub args.cumulativeAmount session.spent)
    VaultError.invalidVoucherSignature
  return (state.write accounts.session
      (.session { account with
        session := settledRegistration session args.cumulativeAmount
          increment })).write accounts.vault
    (.vault { vault with
      pendingVoucherCount := saturatingSub vault.pendingVoucherCount 1 })

/-! ## lock_voucher -/

structure LockVoucher where
  vault : Pubkey
  vaultUsdcAta : Pubkey
  swig : Pubkey
  swigWalletAddress : Pubkey
  session : Pubkey
  claim : Pubkey
  sellerHolder : Pubkey
  dexterAuthority : Pubkey
  payer : Pubkey
  deriving DecidableEq

structure LockVoucherArgs extends VoucherPayload where
  voucherHash : FixedBytes 32
  maturityAt : Option I64
  holderRecoveryAt : Option I64
  allowedCounterparty : Pubkey
  deriving DecidableEq

/-- When both deadlines are set, recovery strictly follows maturity. -/
def RecoveryAfterMaturity (maturityAt holderRecoveryAt : Option I64) : Prop :=
  ∀ maturity ∈ maturityAt, ∀ recovery ∈ holderRecoveryAt, maturity < recovery

instance (maturityAt holderRecoveryAt : Option I64) :
    Decidable (RecoveryAfterMaturity maturityAt holderRecoveryAt) :=
  inferInstanceAs (Decidable (∀ maturity ∈ maturityAt, _))

/-- The meters after a lock: the delta leaves the revolving exposure and
enters the crystallized odometer. -/
def lockedRegistration (session : SessionRegistration) (delta : U64)
    (sequenceNumber : U32) : SessionRegistration :=
  { session with
    currentOutstanding := saturatingSub session.currentOutstanding delta
    crystallizedCumulative := saturatingAdd session.crystallizedCumulative delta
    lastLockedSequence := sequenceNumber }

def newClaim (bump : U8) (vaultKey sellerHolder : Pubkey)
    (sessionPubkey : FixedBytes 32) (delta : U64) (now : I64)
    (args : LockVoucherArgs) : LockedClaim where
  version := lockedClaimVersionV1
  bump := bump
  vault := vaultKey
  sessionPubkeyAtLock := sessionPubkey
  voucherHash := args.voucherHash
  amount := delta
  createdAt := now
  maturityAt := args.maturityAt
  holderRecoveryAt := args.holderRecoveryAt
  currentHolder := sellerHolder
  status := .pending
  settledAt := none
  recoveredAt := none

def lockVoucher (runtime : Runtime) (context : Context) (accounts : LockVoucher)
    (args : LockVoucherArgs) (state : State) : Result State := do
  let vault ← loadVault state accounts.vault
  let vaultUsdcAta ← loadTokenAccount state accounts.vaultUsdcAta
  let account ← loadSession state accounts.session
  requireSigner context accounts.sellerHolder
  requireSigner context accounts.payer
  requireVacant state accounts.claim
  let claimBump ← requireCanonical runtime
    (claimSeeds accounts.vault args.voucherHash) programId accounts.claim
  requireDexterAuthority context vault accounts.dexterAuthority
  requireAddress accounts.swig vault.swigAddress
  let _ ← requireSwigWallet runtime accounts.swig accounts.swigWalletAddress
  requireSessionAddress runtime accounts.vault args.allowedCounterparty account
    accounts.session
  requireVersionV6 vault
  require (vault.swigAddress ≠ defaultPubkey)
    VaultError.passkeyVerificationFailed
  require (RecoveryAfterMaturity args.maturityAt args.holderRecoveryAt)
    VaultError.recoveryBeforeMaturity
  require (vaultUsdcAta.owner = accounts.swigWalletAddress)
    VaultError.passkeyVerificationFailed
  require (account.version ≠ 0) VaultError.noActiveSession
  let session := account.session
  let now := context.unixTimestamp
  require (now < session.expiresAt) VaultError.sessionExpiryInPast
  require (frontier session < args.cumulativeAmount)
    VaultError.lockRangeAlreadyClaimed
  require (args.cumulativeAmount ≤ session.maxAmount)
    VaultError.invalidVoucherSignature
  let message := voucherMessage args.toVoucherPayload
  verifySessionSigned context session.sessionPubkey message
  require (runtime.sha256 message = args.voucherHash)
    VaultError.invalidVoucherSignature
  let delta ← okOr
    (checkedSub args.cumulativeAmount session.crystallizedCumulative)
    VaultError.lockRangeAlreadyClaimed
  require (0 < delta) VaultError.lockRangeAlreadyClaimed
  let proposedOutstanding ← okOr
    (checkedAdd vault.outstandingLockedAmount delta)
    VaultError.lockWouldOvercommitVault
  require (proposedOutstanding ≤ vaultUsdcAta.amount)
    VaultError.lockWouldOvercommitVault
  return ((state.write accounts.claim
      (.claim (newClaim claimBump accounts.vault accounts.sellerHolder
        session.sessionPubkey delta now args))).write accounts.session
      (.session { account with
        session := lockedRegistration session delta args.sequenceNumber })).write
    accounts.vault
    (.vault { vault with
      outstandingLockedAmount := proposedOutstanding
      totalCrystallizedAmount :=
        saturatingAdd vault.totalCrystallizedAmount delta })

/-! ## What accepted calls have checked -/

/-- What an accepted tab opening has checked. -/
structure TabOpened (runtime : Runtime) (accounts : SettleVoucher)
    (args : SettleVoucherArgs) (state : State) (vault : Vault)
    (sessionKey : Pubkey) (session : SessionAccount) (newOutstanding : U64) :
    Prop where
  vaultAt : state.vault? accounts.vault = some vault
  sessionAt : state.session? sessionKey = some session
  address : SessionAddress runtime accounts.vault args.allowedCounterparty
    session.bump sessionKey
  registered : session.version ≠ 0
  raised : newOutstanding.val =
    session.session.currentOutstanding.val + args.amount.val
  admitted : newOutstanding ≤ session.session.maxRevolvingCapacity

/-- Everything that `settle_voucher` asks of the opening of a tab. -/
structure Openable (runtime : Runtime) (context : Context)
    (accounts : SettleVoucher) (args : SettleVoucherArgs) (state : State)
    (vault : Vault) (key : Pubkey) (account : SessionAccount) : Prop where
  increment : args.increment = true
  session : accounts.session = some key
  vaultAt : state.vault? accounts.vault = some vault
  sessionAt : state.session? key = some account
  authority : accounts.dexterAuthority ∈ context.signers ∧
    vault.dexterAuthority = accounts.dexterAuthority
  address : SessionAddress runtime accounts.vault args.allowedCounterparty
    account.bump key
  versionV6 : vault.version = vaultVersionV6
  registered : account.version ≠ 0
  withinCapacity : account.session.currentOutstanding.val + args.amount.val ≤
    account.session.maxRevolvingCapacity.val

/-- What an accepted tab opening has met and written. -/
theorem openable_of_ok {runtime : Runtime} {context : Context}
    {accounts : SettleVoucher} {args : SettleVoucherArgs} {state next : State}
    (hok : settleVoucher runtime context accounts args state = .ok next)
    (hincrement : args.increment = true) :
    ∃ vault key account newOutstanding,
      Openable runtime context accounts args state vault key account ∧
      newOutstanding.val =
        account.session.currentOutstanding.val + args.amount.val ∧
      next = (state.write key
          (.session { account with
            session := { account.session with
              currentOutstanding := newOutstanding } })).write accounts.vault
        (.vault { vault with
          pendingVoucherCount := saturatingAdd vault.pendingVoucherCount 1 }) := by
  simp only [settleVoucher, loadVault, requireVersionV6, hincrement, if_true,
    bind_eq_ok_iff, load_eq_ok_iff, okOr_eq_ok_iff, require_eq_ok_iff,
    checkedAdd_eq_some_iff, pure_eq_ok_iff] at hok
  obtain ⟨vault, hvault, _, hauthority, _, hpassed, _, hversion,
    ⟨key, account⟩, rfl, _, hregistered, newOutstanding, hraised, _, hadmitted,
    rfl⟩ := hok
  cases hsession : accounts.session with
  | none =>
      rw [hsession] at hpassed
      cases hpassed
  | some passed =>
      simp only [hsession, loadOptionalSession, loadSession,
        requireSessionAddress, bind_eq_ok_iff, load_eq_ok_iff,
        require_eq_ok_iff, pure_eq_ok_iff, Option.some.injEq,
        Prod.mk.injEq] at hpassed
      obtain ⟨_, hfound, _, haddress, rfl, rfl⟩ := hpassed
      refine ⟨vault, passed, _, newOutstanding, ?_, hraised, rfl⟩
      exact ⟨hincrement, hsession, hvault, hfound,
        requireDexterAuthority_ok.mp hauthority, haddress, hversion,
        hregistered, hraised ▸ hadmitted⟩

/-- Nothing else is asked. -/
theorem Openable.accepted {runtime : Runtime} {context : Context}
    {accounts : SettleVoucher} {args : SettleVoucherArgs} {state : State}
    {vault : Vault} {key : Pubkey} {account : SessionAccount}
    (hopenable : Openable runtime context accounts args state vault key
      account) :
    ∃ next, settleVoucher runtime context accounts args state = .ok next := by
  have hfits := account.session.maxRevolvingCapacity.isLt
  have hcapacity := hopenable.withinCapacity
  let newOutstanding : U64 :=
    ⟨account.session.currentOutstanding.val + args.amount.val,
      lt_of_le_of_lt hcapacity hfits⟩
  simp only [settleVoucher, loadOptionalSession, loadVault, loadSession,
    requireSessionAddress, requireVersionV6, hopenable.increment,
    hopenable.session, if_true, bind_eq_ok_iff, load_eq_ok_iff, okOr_eq_ok_iff,
    require_eq_ok_iff, checkedAdd_eq_some_iff, pure_eq_ok_iff]
  exact ⟨_, vault, hopenable.vaultAt, (),
    requireDexterAuthority_ok.mpr hopenable.authority, _,
    ⟨account, hopenable.sessionAt, (), hopenable.address, rfl⟩, (),
    hopenable.versionV6, (key, account), rfl, (), hopenable.registered,
    newOutstanding, rfl, (), hcapacity, rfl⟩

/-- An accepted tab close changes the counter only; an accepted tab opening
also raises the meter of one registered session. -/
theorem settleVoucher_ok {runtime : Runtime} {context : Context}
    {accounts : SettleVoucher} {args : SettleVoucherArgs} {state next : State}
    (hok : settleVoucher runtime context accounts args state = .ok next) :
    (args.increment = false ∧ Quiet state next) ∨
      (args.increment = true ∧ ∃ vault sessionKey session newOutstanding,
        TabOpened runtime accounts args state vault sessionKey session
          newOutstanding ∧
        next = (state.write sessionKey
            (.session { session with
              session := { session.session with
                currentOutstanding := newOutstanding } })).write accounts.vault
          (.vault { vault with
            pendingVoucherCount :=
              saturatingAdd vault.pendingVoucherCount 1 })) := by
  cases hincrement : args.increment with
  | false =>
      simp only [settleVoucher, loadVault, requireVersionV6, hincrement,
        Bool.false_eq_true, if_false, bind_eq_ok_iff, load_eq_ok_iff,
        pure_eq_ok_iff] at hok
      obtain ⟨vault, hvault, _, _, _, _, _, _, _, _, rfl⟩ := hok
      exact .inl ⟨rfl, Quiet.write_vault hvault rfl⟩
  | true =>
      obtain ⟨vault, key, account, newOutstanding, hopenable, hraised, rfl⟩ :=
        openable_of_ok hok hincrement
      have hadmitted : newOutstanding ≤ account.session.maxRevolvingCapacity :=
        hraised.trans_le hopenable.withinCapacity
      exact .inr ⟨rfl, vault, key, account, newOutstanding,
        ⟨hopenable.vaultAt, hopenable.sessionAt, hopenable.address,
          hopenable.registered, hraised, hadmitted⟩, rfl⟩

/-- What an accepted tab close has written. -/
theorem settleVoucher_closed {runtime : Runtime} {context : Context}
    {accounts : SettleVoucher} {args : SettleVoucherArgs} {state next : State}
    (hok : settleVoucher runtime context accounts args state = .ok next)
    (hclose : args.increment = false) :
    ∃ vault, state.vault? accounts.vault = some vault ∧
      0 < vault.pendingVoucherCount ∧
      next = state.write accounts.vault
        (.vault { vault with
          pendingVoucherCount :=
            saturatingSub vault.pendingVoucherCount 1 }) := by
  simp only [settleVoucher, loadVault, requireVersionV6, bind_eq_ok_iff,
    load_eq_ok_iff, hclose, Bool.false_eq_true, if_false, require_eq_ok_iff,
    pure_eq_ok_iff] at hok
  obtain ⟨vault, hvault, _, _, _, _, _, _, _, hpositive, rfl⟩ := hok
  exact ⟨vault, hvault, hpositive, rfl⟩

/-- What both terminal paths have checked of the session and the voucher. -/
structure VoucherAdmitted (runtime : Runtime) (context : Context)
    (vaultKey sessionKey counterparty : Pubkey) (payload : VoucherPayload)
    (state : State) (account : SessionAccount) : Prop where
  sessionAt : state.session? sessionKey = some account
  address : SessionAddress runtime vaultKey counterparty account.bump sessionKey
  registered : account.version ≠ 0
  unexpired : context.unixTimestamp < account.session.expiresAt
  aboveFrontier : frontier account.session < payload.cumulativeAmount
  withinCap : payload.cumulativeAmount ≤ account.session.maxAmount
  signed : verifySessionSigned context account.session.sessionPubkey
    (voucherMessage payload) = .ok ()

/-- What an accepted tab settlement has checked. -/
structure TabSettled (runtime : Runtime) (context : Context)
    (accounts : SettleTabVoucher) (args : SettleTabVoucherArgs) (state : State)
    (vault : Vault) (account : SessionAccount) (increment : U64) : Prop where
  vaultAt : state.vault? accounts.vault = some vault
  admitted : VoucherAdmitted runtime context accounts.vault accounts.session
    args.allowedCounterparty args.toVoucherPayload state account
  swig : accounts.swig = vault.swigAddress
  swigBound : vault.swigAddress ≠ defaultPubkey
  versionV6 : vault.version = vaultVersionV6
  authority : accounts.dexterAuthority ∈ context.signers ∧
    vault.dexterAuthority = accounts.dexterAuthority
  increment : increment.val =
    args.cumulativeAmount.val - account.session.spent.val

theorem settleTabVoucher_ok {runtime : Runtime} {context : Context}
    {accounts : SettleTabVoucher} {args : SettleTabVoucherArgs}
    {state next : State}
    (hok : settleTabVoucher runtime context accounts args state = .ok next) :
    ∃ vault account increment,
      TabSettled runtime context accounts args state vault account increment ∧
      next = (state.write accounts.session
          (.session { account with
            session := settledRegistration account.session
              args.cumulativeAmount increment })).write accounts.vault
        (.vault { vault with
          pendingVoucherCount := saturatingSub vault.pendingVoucherCount 1 }) := by
  simp only [settleTabVoucher, loadVault, loadSession, requireAddress,
    requireSessionAddress, requireVersionV6, bind_eq_ok_iff, load_eq_ok_iff,
    okOr_eq_ok_iff, require_eq_ok_iff, checkedSub_eq_some_iff,
    pure_eq_ok_iff] at hok
  obtain ⟨vault, hvault, account, hsession, _, hswig, _, _, _, hauthority, _,
    haddress, _, hversion, _, hbound, _, hregistered, _, hunexpired, _,
    hfrontier, _, hcap, _, hsigned, increment, ⟨_, hincrement⟩, rfl⟩ := hok
  exact ⟨vault, account, increment,
    ⟨hvault, ⟨hsession, haddress, hregistered, hunexpired, hfrontier, hcap,
      hsigned⟩, hswig, hbound, hversion, requireDexterAuthority_ok.mp hauthority,
      hincrement⟩, rfl⟩

/-- What an accepted lock has checked. -/
structure Locked (runtime : Runtime) (context : Context)
    (accounts : LockVoucher) (args : LockVoucherArgs) (state : State)
    (vault : Vault) (account : SessionAccount) (ata : TokenAccount)
    (delta proposedOutstanding : U64) : Prop where
  vaultAt : state.vault? accounts.vault = some vault
  ataAt : state.tokens.lookup accounts.vaultUsdcAta = some ata
  admitted : VoucherAdmitted runtime context accounts.vault accounts.session
    args.allowedCounterparty args.toVoucherPayload state account
  vacant : state.accounts.lookup accounts.claim = none
  swig : accounts.swig = vault.swigAddress
  swigBound : vault.swigAddress ≠ defaultPubkey
  versionV6 : vault.version = vaultVersionV6
  voucherHash : runtime.sha256 (voucherMessage args.toVoucherPayload) =
    args.voucherHash
  deltaIs : account.session.crystallizedCumulative.val + delta.val =
    args.cumulativeAmount.val
  deltaPositive : 0 < delta.val
  outstanding : proposedOutstanding.val =
    vault.outstandingLockedAmount.val + delta.val
  covered : proposedOutstanding ≤ ata.amount

theorem lockVoucher_ok {runtime : Runtime} {context : Context}
    {accounts : LockVoucher} {args : LockVoucherArgs} {state next : State}
    (hok : lockVoucher runtime context accounts args state = .ok next) :
    ∃ vault account ata delta proposedOutstanding claimBump,
      Locked runtime context accounts args state vault account ata delta
        proposedOutstanding ∧
      next = ((state.write accounts.claim
          (.claim (newClaim claimBump accounts.vault accounts.sellerHolder
            account.session.sessionPubkey delta context.unixTimestamp
            args))).write accounts.session
          (.session { account with
            session := lockedRegistration account.session delta
              args.sequenceNumber })).write accounts.vault
        (.vault { vault with
          outstandingLockedAmount := proposedOutstanding
          totalCrystallizedAmount :=
            saturatingAdd vault.totalCrystallizedAmount delta }) := by
  simp only [lockVoucher, loadVault, loadSession, loadTokenAccount,
    requireAddress, requireVacant, requireSessionAddress, requireVersionV6,
    bind_eq_ok_iff, load_eq_ok_iff, okOr_eq_ok_iff, require_eq_ok_iff,
    checkedSub_eq_some_iff, checkedAdd_eq_some_iff, pure_eq_ok_iff] at hok
  obtain ⟨vault, hvault, ata, hata, account, hsession, _, _, _, _, _, hvacant,
    claimBump, _, _, _, _, hswig, _, _, _, haddress, _, hversion, _, hbound, _,
    _, _, _, _, hregistered, _, hunexpired, _, hfrontier, _, hcap, _, hsigned,
    _, hhash, delta, ⟨hle, hdelta⟩, _, hpositive, outstanding, houtstanding, _,
    hcovered, rfl⟩ := hok
  exact ⟨vault, account, ata, delta, outstanding, claimBump,
    ⟨hvault, hata, ⟨hsession, haddress, hregistered, hunexpired, hfrontier,
      hcap, hsigned⟩, hvacant, hswig, hbound, hversion, hhash, by omega,
      hpositive, houtstanding, hcovered⟩, rfl⟩

/-- The deadlines of a lock are in order. -/
theorem lockVoucher_deadlines {runtime : Runtime} {context : Context}
    {accounts : LockVoucher} {args : LockVoucherArgs} {state next : State}
    (hok : lockVoucher runtime context accounts args state = .ok next) :
    RecoveryAfterMaturity args.maturityAt args.holderRecoveryAt := by
  simp only [lockVoucher, loadVault, loadSession, loadTokenAccount,
    bind_eq_ok_iff, load_eq_ok_iff, okOr_eq_ok_iff, require_eq_ok_iff] at hok
  obtain ⟨_, -, _, -, _, -, _, -, _, -, _, -, _, -, _, -, _, -, _, -, _, -, _, -,
    _, -, _, hdeadlines, -⟩ := hok
  exact hdeadlines

end DexterVault.Voucher
