import DexterVault.Instructions.Setup

/-!
# Standby credit

`set_standby_reserve`, `open_standby`, `draw_credit`, `repay_credit`,
`seize_collateral` and `close_standby`.  They move the credit fields of a vault
and the ledger of its financier and touch no session and no claim.
-/

namespace DexterVault.Credit

open DexterVault.Machine
open DexterVault.Framing
open DexterVault.Accounts
open DexterVault.Execution
open DexterVault.Webauthn
open DexterVault.Setup

def requireVersionV5OrV6 (vault : Vault) : Result Unit :=
  require (vault.version = vaultVersionV5 ∨ vault.version = vaultVersionV6)
    VaultError.unsupportedVaultVersion

/-! ## set_standby_reserve -/

structure SetStandbyReserve where
  financierSwig : Pubkey
  financierSwigWalletAddress : Pubkey
  standbyBacker : Pubkey
  feePayer : Pubkey
  deriving DecidableEq

structure SetStandbyReserveArgs where
  newReserve : U64
  deriving DecidableEq

/-- The runtime-zeroed body of a freshly created ledger. -/
def zeroedBacker : StandbyBacker where
  version := 0
  bump := 0
  financierSwig := defaultPubkey
  committedReserve := 0
  aggregatePromised := 0
  reserveKind := .declared

/-- The first call fills in the ledger; a later one leaves it as it is. -/
def initializedBacker (backer : StandbyBacker) (bump : U8)
    (financierSwig : Pubkey) : StandbyBacker :=
  if backer.version = 0 then
    { backer with
      version := standbyBackerVersionV1
      bump := bump
      financierSwig := financierSwig
      aggregatePromised := 0
      reserveKind := .declared }
  else
    backer

def setStandbyReserve (runtime : Runtime) (context : Context)
    (accounts : SetStandbyReserve) (args : SetStandbyReserveArgs)
    (state : State) : Result State := do
  requireSigner context accounts.financierSwigWalletAddress
  let found ← loadOrInit Account.standbyBacker? zeroedBacker state
    accounts.standbyBacker
  let bump ← requireCanonical runtime (standbyBackerSeeds accounts.financierSwig)
    programId accounts.standbyBacker
  let _ ← requireSwigWallet runtime accounts.financierSwig
    accounts.financierSwigWalletAddress
  requireSigner context accounts.feePayer
  let backer := initializedBacker found bump accounts.financierSwig
  require (backer.aggregatePromised ≤ args.newReserve)
    VaultError.reserveBelowPromised
  return state.write accounts.standbyBacker
    (.standbyBacker { backer with committedReserve := args.newReserve })

/-! ## open_standby -/

structure OpenStandby where
  vault : Pubkey
  financierSwig : Pubkey
  standbyBacker : Pubkey
  deriving DecidableEq

structure OpenStandbyArgs extends Assertion where
  cap : U64
  deriving DecidableEq

def openStandbyMessage (vaultKey financierSwig : Pubkey) (cap : U64) : Bytes :=
  ascii "open_standby" ++ vaultKey.toList ++ financierSwig.toList ++
    encodeU64 cap

/-- `aggregate_promised` follows the change of the cap, up or down. -/
def resizedAggregate (backer : StandbyBacker) (oldCap newCap : U64) :
    Result U64 :=
  if oldCap ≤ newCap then do
    let newAggregate ← okOr
      (checkedAdd backer.aggregatePromised (saturatingSub newCap oldCap))
      VaultError.standbyWouldExceedReserve
    require (newAggregate ≤ backer.committedReserve)
      VaultError.standbyWouldExceedReserve
    return newAggregate
  else
    return saturatingSub backer.aggregatePromised (saturatingSub oldCap newCap)

def requireBackerAddress (runtime : Runtime) (financierSwig : Pubkey)
    (backer : StandbyBacker) (backerKey : Pubkey) : Result Unit :=
  requireDerived runtime (standbyBackerSeeds financierSwig) backer.bump programId
    backerKey

def openStandby (runtime : Runtime) (context : Context) (accounts : OpenStandby)
    (args : OpenStandbyArgs) (state : State) : Result State := do
  let vault ← loadVault state accounts.vault
  let backer ← loadStandbyBacker state accounts.standbyBacker
  requireBackerAddress runtime accounts.financierSwig backer
    accounts.standbyBacker
  requireVersionV5OrV6 vault
  require (0 < args.cap) VaultError.standbyCapZero
  verifyPasskeySigned runtime context vault.passkeyPubkey args.clientDataJson
    args.authenticatorData
    (openStandbyMessage accounts.vault accounts.financierSwig args.cap)
  require (∀ existing ∈ vault.standbyBacker, existing = accounts.financierSwig)
    VaultError.standbyBackerMismatch
  require (backer.financierSwig = accounts.financierSwig)
    VaultError.noStandbyBackerLedger
  require (vault.borrowed ≤ args.cap) VaultError.resizeBelowBorrowed
  let oldCap := if vault.standbyBacker.isSome then vault.standbyCap else 0
  let newAggregate ← resizedAggregate backer oldCap args.cap
  return (state.write accounts.standbyBacker
      (.standbyBacker { backer with aggregatePromised := newAggregate })).write
    accounts.vault
    (.vault { vault with
      standbyBacker := some accounts.financierSwig
      standbyCap := args.cap })

/-! ## draw_credit -/

structure DrawCredit where
  financierSwig : Pubkey
  financierSwigWalletAddress : Pubkey
  vault : Pubkey
  dexterAuthority : Pubkey
  deriving DecidableEq

structure DrawCreditArgs where
  amount : U64
  recoveryWindowSeconds : I64
  deriving DecidableEq

/-- The first draw arms the deadline; later ones keep it. -/
def armedRecovery (current : Option I64) (now window : I64) :
    Result (Option I64) :=
  match current with
  | some deadline => .ok (some deadline)
  | none => do
      let deadline ← okOr (now.checkedAdd window)
        VaultError.creditWouldExceedStandbyCap
      return some deadline

theorem armedRecovery_ok {current recoveryAt : Option I64} {now window : I64}
    (hok : armedRecovery current now window = .ok recoveryAt) :
    (current = none ∧
      ∃ deadline, recoveryAt = some deadline ∧
        now.checkedAdd window = some deadline) ∨
    (current ≠ none ∧ recoveryAt = current) := by
  cases current with
  | none =>
      simp only [armedRecovery, bind_eq_ok_iff, okOr_eq_ok_iff,
        pure_eq_ok_iff] at hok
      obtain ⟨deadline, hdeadline, rfl⟩ := hok
      exact .inl ⟨rfl, deadline, rfl, hdeadline⟩
  | some deadline =>
      cases hok
      exact .inr ⟨Option.some_ne_none deadline, rfl⟩

def drawCredit (runtime : Runtime) (context : Context) (accounts : DrawCredit)
    (args : DrawCreditArgs) (state : State) : Result State := do
  let vault ← loadVault state accounts.vault
  let _ ← requireSwigWallet runtime accounts.financierSwig
    accounts.financierSwigWalletAddress
  requireDexterAuthority context vault accounts.dexterAuthority
  requireVersionV5OrV6 vault
  let backer ← okOr vault.standbyBacker VaultError.noStandbyBacker
  require (backer = accounts.financierSwig) VaultError.noStandbyBacker
  let newBorrowed ← okOr (checkedAdd vault.borrowed args.amount)
    VaultError.creditWouldExceedStandbyCap
  require (newBorrowed ≤ vault.standbyCap) VaultError.creditWouldExceedStandbyCap
  let recoveryAt ← armedRecovery vault.borrowRecoveryAt context.unixTimestamp
    args.recoveryWindowSeconds
  return state.write accounts.vault
    (.vault { vault with
      borrowed := newBorrowed
      borrowRecoveryAt := recoveryAt })

/-! ## repay_credit and seize_collateral -/

/-- The accounts shared by the two instructions that move the user's own funds
to the financier. -/
structure CreditExit where
  swig : Pubkey
  swigWalletAddress : Pubkey
  vault : Pubkey
  dexterAuthority : Pubkey
  deriving DecidableEq

structure RepayCreditArgs where
  amount : U64
  deriving DecidableEq

/-- The amount of a repayment, clamped to what is borrowed. -/
def repaidAmount (vault : Vault) (args : RepayCreditArgs) : U64 :=
  min args.amount vault.borrowed

def repaidVault (vault : Vault) (args : RepayCreditArgs) : Vault :=
  let borrowed := saturatingSub vault.borrowed (repaidAmount vault args)
  { vault with
    borrowed := borrowed
    borrowRecoveryAt := if borrowed = 0 then none else vault.borrowRecoveryAt }

def repayCredit (runtime : Runtime) (context : Context) (accounts : CreditExit)
    (args : RepayCreditArgs) (state : State) : Result State := do
  let vault ← loadVault state accounts.vault
  requireAddress accounts.swig vault.swigAddress
  let _ ← requireSwigWallet runtime accounts.swig accounts.swigWalletAddress
  requireDexterAuthority context vault accounts.dexterAuthority
  requireVersionV5OrV6 vault
  require (0 < vault.borrowed) VaultError.nothingBorrowed
  return state.write accounts.vault (.vault (repaidVault vault args))

def seizeCollateral (runtime : Runtime) (context : Context)
    (accounts : CreditExit) (state : State) : Result State := do
  let vault ← loadVault state accounts.vault
  requireAddress accounts.swig vault.swigAddress
  let _ ← requireSwigWallet runtime accounts.swig accounts.swigWalletAddress
  requireDexterAuthority context vault accounts.dexterAuthority
  requireVersionV5OrV6 vault
  require (0 < vault.borrowed) VaultError.nothingBorrowed
  let deadline ← okOr vault.borrowRecoveryAt VaultError.nothingBorrowed
  require (deadline ≤ context.unixTimestamp) VaultError.borrowRecoveryTooEarly
  return state.write accounts.vault
    (.vault { vault with borrowed := 0, borrowRecoveryAt := none })

/-! ## close_standby -/

inductive Closer
  | user
  | financier
  deriving DecidableEq

structure CloseStandby where
  financierSwig : Pubkey
  financierSwigWalletAddress : Pubkey
  vault : Pubkey
  standbyBacker : Pubkey
  deriving DecidableEq

structure CloseStandbyArgs extends Assertion where
  closer : Closer
  deriving DecidableEq

def closeStandbyMessage (vaultKey backer : Pubkey) : Bytes :=
  ascii "close_standby" ++ vaultKey.toList ++ backer.toList

/-- The consent of the party that closes. -/
def closerConsent (runtime : Runtime) (context : Context)
    (accounts : CloseStandby) (args : CloseStandbyArgs) (vault : Vault)
    (backer : Pubkey) : Result Unit :=
  match args.closer with
  | .user =>
      verifyPasskeySigned runtime context vault.passkeyPubkey
        args.clientDataJson args.authenticatorData
        (closeStandbyMessage accounts.vault backer)
  | .financier => do
      require (accounts.financierSwig = backer) VaultError.standbyBackerMismatch
      require (accounts.financierSwigWalletAddress ∈ context.signers)
        VaultError.financierConsentMissing

/-- `close_standby_core`, which both consent legs end in. -/
def closeStandbyCore (vault : Vault) (standbyBacker : StandbyBacker) :
    Result (Vault × StandbyBacker) := do
  requireVersionV5OrV6 vault
  let backer ← okOr vault.standbyBacker VaultError.noStandbyBacker
  require (vault.borrowed = 0) VaultError.standbyStillBorrowed
  require (standbyBacker.financierSwig = backer)
    VaultError.noStandbyBackerLedger
  let aggregatePromised :=
    saturatingSub standbyBacker.aggregatePromised vault.standbyCap
  return ({ vault with standbyBacker := none, standbyCap := 0 },
    { standbyBacker with aggregatePromised := aggregatePromised })

def closeStandby (runtime : Runtime) (context : Context)
    (accounts : CloseStandby) (args : CloseStandbyArgs) (state : State) :
    Result State := do
  let vault ← loadVault state accounts.vault
  let standbyBacker ← loadStandbyBacker state accounts.standbyBacker
  let _ ← requireSwigWallet runtime accounts.financierSwig
    accounts.financierSwigWalletAddress
  requireBackerAddress runtime accounts.financierSwig standbyBacker
    accounts.standbyBacker
  let backer ← okOr vault.standbyBacker VaultError.noStandbyBacker
  closerConsent runtime context accounts args vault backer
  let closed ← closeStandbyCore vault standbyBacker
  return (state.write accounts.standbyBacker (.standbyBacker closed.2)).write
    accounts.vault (.vault closed.1)

/-! ## What accepted calls have checked -/

section Accepted

variable {runtime : Runtime} {context : Context} {state next : State}

/-- What an accepted setting of a reserve has checked of the ledger it found. -/
structure ReserveSet (runtime : Runtime) (accounts : SetStandbyReserve)
    (args : SetStandbyReserveArgs) (state : State) (found : StandbyBacker)
    (bump : U8) : Prop where
  ledgerAt : (state.accounts.lookup accounts.standbyBacker = none ∧
      found = zeroedBacker) ∨
    state.standbyBacker? accounts.standbyBacker = some found
  canonical : runtime.findProgramAddress
    (standbyBackerSeeds accounts.financierSwig) programId =
      some (accounts.standbyBacker, bump)
  promised : (initializedBacker found bump
    accounts.financierSwig).aggregatePromised ≤ args.newReserve

theorem setStandbyReserve_ok {accounts : SetStandbyReserve}
    {args : SetStandbyReserveArgs}
    (hok : setStandbyReserve runtime context accounts args state = .ok next) :
    ∃ found bump, ReserveSet runtime accounts args state found bump ∧
      next = state.write accounts.standbyBacker
        (.standbyBacker
          { initializedBacker found bump accounts.financierSwig with
            committedReserve := args.newReserve }) := by
  simp only [setStandbyReserve, bind_eq_ok_iff, loadOrInit_eq_ok_iff,
    requireCanonical_eq_ok_iff, require_eq_ok_iff, pure_eq_ok_iff] at hok
  obtain ⟨_, _, found, hfound, bump, hcanonical, _, _, _, _, _, hpromised,
    rfl⟩ := hok
  exact ⟨found, bump, ⟨hfound, hcanonical, hpromised⟩, rfl⟩

theorem setStandbyReserve_quiet {accounts : SetStandbyReserve}
    {args : SetStandbyReserveArgs}
    (hok : setStandbyReserve runtime context accounts args state = .ok next) :
    Quiet state next := by
  obtain ⟨found, bump, hset, rfl⟩ := setStandbyReserve_ok hok
  apply Quiet.write_standbyBacker
  rcases hset.ledgerAt with ⟨hvacant, -⟩ | hbacker
  · exact .inl hvacant
  · exact .inr ⟨found, hbacker⟩

/-- A write to a ledger and then to the vault of the same call is quiet. -/
theorem quiet_backer_vault {vaultKey backerKey : Pubkey} {vault after : Vault}
    {backer afterBacker : StandbyBacker}
    (hvault : state.vault? vaultKey = some vault)
    (hbacker : state.standbyBacker? backerKey = some backer)
    (hledger : after.ledger = vault.ledger) :
    Quiet state ((state.write backerKey (.standbyBacker afterBacker)).write
      vaultKey (.vault after)) := by
  have hne : vaultKey ≠ backerKey := by
    rintro rfl
    rw [State.standbyBacker?, State.view_of_vault? hvault] at hbacker
    cases hbacker
  have hvault' : (state.write backerKey (.standbyBacker afterBacker)).vault?
      vaultKey = some vault := by
    rw [State.vault?, State.view_write, if_neg hne]
    exact hvault
  exact (Quiet.write_standbyBacker (.inr ⟨backer, hbacker⟩)).trans
    (Quiet.write_vault hvault' hledger)

/-- The aggregate follows the cap: up to the committed reserve, or down. -/
theorem resizedAggregate_ok {backer : StandbyBacker}
    {oldCap newCap newAggregate : U64}
    (hok : resizedAggregate backer oldCap newCap = .ok newAggregate) :
    (oldCap ≤ newCap ∧ newAggregate ≤ backer.committedReserve ∧
      newAggregate.val =
        backer.aggregatePromised.val + (newCap.val - oldCap.val)) ∨
    (newCap < oldCap ∧ newAggregate.val =
      backer.aggregatePromised.val - (oldCap.val - newCap.val)) := by
  unfold resizedAggregate at hok
  split at hok
  · next hle =>
      simp only [bind_eq_ok_iff, okOr_eq_ok_iff, checkedAdd_eq_some_iff,
        require_eq_ok_iff, pure_eq_ok_iff] at hok
      obtain ⟨aggregate, haggregate, _, hreserve, rfl⟩ := hok
      exact .inl ⟨hle, hreserve, haggregate⟩
  · next hgt =>
      rw [pure_eq_ok_iff] at hok
      subst hok
      exact .inr ⟨not_le.mp hgt, rfl⟩

/-- The cap that a call to `open_standby` replaces. -/
def replacedCap (vault : Vault) : U64 :=
  if vault.standbyBacker.isSome then vault.standbyCap else 0

/-- What an accepted opening or resizing of a standby has checked. -/
structure StandbyOpened (accounts : OpenStandby) (args : OpenStandbyArgs)
    (state : State) (vault : Vault) (backer : StandbyBacker)
    (newAggregate : U64) : Prop where
  vaultAt : state.vault? accounts.vault = some vault
  backerAt : state.standbyBacker? accounts.standbyBacker = some backer
  financier : backer.financierSwig = accounts.financierSwig
  sameBacker : ∀ existing ∈ vault.standbyBacker,
    existing = accounts.financierSwig
  covers : vault.borrowed ≤ args.cap
  aggregate : resizedAggregate backer (replacedCap vault) args.cap =
    .ok newAggregate

theorem openStandby_ok {accounts : OpenStandby} {args : OpenStandbyArgs}
    (hok : openStandby runtime context accounts args state = .ok next) :
    ∃ vault backer newAggregate,
      StandbyOpened accounts args state vault backer newAggregate ∧
      next = (state.write accounts.standbyBacker
          (.standbyBacker
            { backer with aggregatePromised := newAggregate })).write
        accounts.vault
        (.vault { vault with
          standbyBacker := some accounts.financierSwig
          standbyCap := args.cap }) := by
  simp only [openStandby, loadVault, loadStandbyBacker, bind_eq_ok_iff,
    load_eq_ok_iff, require_eq_ok_iff, pure_eq_ok_iff] at hok
  obtain ⟨vault, hvault, backer, hbacker, _, _, _, _, _, _, _, _, _, hsame, _,
    hfinancier, _, hcovers, newAggregate, haggregate, rfl⟩ := hok
  exact ⟨vault, backer, newAggregate,
    ⟨hvault, hbacker, hfinancier, hsame, hcovers, haggregate⟩, rfl⟩

theorem openStandby_quiet {accounts : OpenStandby} {args : OpenStandbyArgs}
    (hok : openStandby runtime context accounts args state = .ok next) :
    Quiet state next := by
  obtain ⟨vault, backer, newAggregate, hopened, rfl⟩ := openStandby_ok hok
  exact quiet_backer_vault hopened.vaultAt hopened.backerAt rfl

/-- What an accepted draw has checked. -/
structure CreditDrawn (context : Context) (accounts : DrawCredit)
    (args : DrawCreditArgs) (state : State) (vault : Vault)
    (newBorrowed : U64) (recoveryAt : Option I64) : Prop where
  vaultAt : state.vault? accounts.vault = some vault
  backer : vault.standbyBacker = some accounts.financierSwig
  borrowed : newBorrowed.val = vault.borrowed.val + args.amount.val
  withinCap : newBorrowed ≤ vault.standbyCap
  recovery : armedRecovery vault.borrowRecoveryAt context.unixTimestamp
    args.recoveryWindowSeconds = .ok recoveryAt

theorem drawCredit_ok {accounts : DrawCredit} {args : DrawCreditArgs}
    (hok : drawCredit runtime context accounts args state = .ok next) :
    ∃ vault newBorrowed recoveryAt,
      CreditDrawn context accounts args state vault newBorrowed recoveryAt ∧
      next = state.write accounts.vault
        (.vault { vault with
          borrowed := newBorrowed
          borrowRecoveryAt := recoveryAt }) := by
  simp only [drawCredit, loadVault, bind_eq_ok_iff, load_eq_ok_iff,
    okOr_eq_ok_iff, require_eq_ok_iff, checkedAdd_eq_some_iff,
    pure_eq_ok_iff] at hok
  obtain ⟨vault, hvault, _, _, _, _, _, _, backer, hbacker, _, hsame, borrowed,
    hborrowed, _, hcap, recovery, hrecovery, rfl⟩ := hok
  subst hsame
  exact ⟨vault, borrowed, recovery,
    ⟨hvault, hbacker, hborrowed, hcap, hrecovery⟩, rfl⟩

theorem drawCredit_quiet {accounts : DrawCredit} {args : DrawCreditArgs}
    (hok : drawCredit runtime context accounts args state = .ok next) :
    Quiet state next := by
  obtain ⟨vault, newBorrowed, recoveryAt, hdrawn, rfl⟩ := drawCredit_ok hok
  exact Quiet.write_vault hdrawn.vaultAt rfl

/-- What an accepted repayment or seizure has checked. -/
structure CreditExited (context : Context) (accounts : CreditExit)
    (state : State) (vault : Vault) : Prop where
  vaultAt : state.vault? accounts.vault = some vault
  swig : accounts.swig = vault.swigAddress
  authority : accounts.dexterAuthority ∈ context.signers ∧
    vault.dexterAuthority = accounts.dexterAuthority
  borrowed : 0 < vault.borrowed

theorem repayCredit_ok {accounts : CreditExit} {args : RepayCreditArgs}
    (hok : repayCredit runtime context accounts args state = .ok next) :
    ∃ vault, CreditExited context accounts state vault ∧
      next = state.write accounts.vault (.vault (repaidVault vault args)) := by
  simp only [repayCredit, loadVault, requireAddress, bind_eq_ok_iff,
    load_eq_ok_iff, require_eq_ok_iff, pure_eq_ok_iff] at hok
  obtain ⟨vault, hvault, _, hswig, _, _, _, hauthority, _, _, _, hborrowed,
    rfl⟩ := hok
  exact ⟨vault, ⟨hvault, hswig, requireDexterAuthority_ok.mp hauthority,
    hborrowed⟩, rfl⟩

theorem seizeCollateral_ok {accounts : CreditExit}
    (hok : seizeCollateral runtime context accounts state = .ok next) :
    ∃ vault, CreditExited context accounts state vault ∧
      next = state.write accounts.vault
        (.vault { vault with borrowed := 0, borrowRecoveryAt := none }) := by
  simp only [seizeCollateral, loadVault, requireAddress, bind_eq_ok_iff,
    load_eq_ok_iff, require_eq_ok_iff, pure_eq_ok_iff] at hok
  obtain ⟨vault, hvault, _, hswig, _, _, _, hauthority, _, _, _, hborrowed, _, _,
    _, _, rfl⟩ := hok
  exact ⟨vault, ⟨hvault, hswig, requireDexterAuthority_ok.mp hauthority,
    hborrowed⟩, rfl⟩

/-- A seizure happens at or after the deadline. -/
theorem seizeCollateral_due {accounts : CreditExit} {vault : Vault}
    (hok : seizeCollateral runtime context accounts state = .ok next)
    (hvault : state.vault? accounts.vault = some vault) :
    ∃ deadline, vault.borrowRecoveryAt = some deadline ∧
      deadline ≤ context.unixTimestamp := by
  simp only [seizeCollateral, loadVault, bind_eq_ok_iff, load_eq_ok_iff,
    okOr_eq_ok_iff, require_eq_ok_iff] at hok
  obtain ⟨found, hfound, _, _, _, _, _, _, _, _, _, _, deadline, hdeadline, _,
    hdue, -⟩ := hok
  obtain rfl : found = vault := Option.some.inj (hfound.symm.trans hvault)
  exact ⟨deadline, hdeadline, hdue⟩

/-- What an accepted closing of a standby has checked. -/
structure StandbyClosed (accounts : CloseStandby) (state : State)
    (vault : Vault) (backer : StandbyBacker) : Prop where
  vaultAt : state.vault? accounts.vault = some vault
  backerAt : state.standbyBacker? accounts.standbyBacker = some backer
  sameBacker : vault.standbyBacker = some backer.financierSwig
  repaid : vault.borrowed = 0

theorem closeStandby_ok {accounts : CloseStandby} {args : CloseStandbyArgs}
    (hok : closeStandby runtime context accounts args state = .ok next) :
    ∃ vault backer, StandbyClosed accounts state vault backer ∧
      next = (state.write accounts.standbyBacker
          (.standbyBacker { backer with
            aggregatePromised :=
              saturatingSub backer.aggregatePromised vault.standbyCap })).write
        accounts.vault
        (.vault { vault with standbyBacker := none, standbyCap := 0 }) := by
  simp only [closeStandby, closeStandbyCore, loadVault, loadStandbyBacker,
    bind_eq_ok_iff, load_eq_ok_iff, okOr_eq_ok_iff, require_eq_ok_iff,
    pure_eq_ok_iff] at hok
  obtain ⟨vault, hvault, backer, hbacker, _, _, _, _, _, _, _, _, _,
    ⟨_, _, found, hfound, _, hrepaid, _, hsame, rfl⟩, rfl⟩ := hok
  subst hsame
  exact ⟨vault, backer, ⟨hvault, hbacker, hfound, hrepaid⟩, rfl⟩

theorem closeStandby_quiet {accounts : CloseStandby} {args : CloseStandbyArgs}
    (hok : closeStandby runtime context accounts args state = .ok next) :
    Quiet state next := by
  obtain ⟨vault, backer, hclosed, rfl⟩ := closeStandby_ok hok
  exact quiet_backer_vault hclosed.vaultAt hclosed.backerAt rfl

end Accepted

end DexterVault.Credit
