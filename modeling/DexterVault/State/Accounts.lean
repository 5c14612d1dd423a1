import DexterVault.Core.Framing
import DexterVault.Core.KeyedSum

/-!
# The accounts of the vault program

The account types of `state.rs`, the constants that name other programs, and
the errors an instruction can end with.  Field names and orders are the
source's.
-/

namespace DexterVault.Accounts

open DexterVault.Machine
open DexterVault.Framing
open DexterVault.KeyedSum

abbrev Pubkey := FixedBytes 32

/-- Keys are looked up by their equality. -/
instance lawfulBEqPubkey : @LawfulBEq Pubkey instBEqOfDecidableEq :=
  inferInstance

/-- A SEC1 compressed P-256 public key. -/
abbrev PasskeyPubkey := FixedBytes 33

/-- `Pubkey::default()`. -/
def defaultPubkey : Pubkey := FixedBytes.zero

/-! ## Constants -/

/-- The program's own id, `crate::ID`. -/
def programId : Pubkey :=
  ⟨[247, 187, 246, 251, 52, 56, 66, 76, 183, 85, 162, 18, 174, 144, 245, 26,
    212, 221, 207, 211, 213, 101, 176, 215, 94, 24, 142, 16, 113, 24, 118, 243],
    rfl⟩

def swigProgramId : Pubkey :=
  ⟨[13, 12, 233, 66, 225, 231, 197, 6, 226, 24, 223, 13, 125, 241, 197, 47,
    175, 220, 53, 41, 228, 141, 103, 77, 29, 178, 76, 117, 181, 76, 204, 190],
    rfl⟩

def ed25519VerifyProgramId : Pubkey :=
  ⟨[3, 125, 70, 214, 124, 147, 251, 190, 18, 249, 66, 143, 131, 141, 64, 255,
    5, 112, 116, 73, 39, 244, 138, 100, 252, 202, 112, 68, 128, 0, 0, 0], rfl⟩

def secp256r1VerifyProgramId : Pubkey :=
  ⟨[6, 146, 13, 236, 47, 234, 113, 181, 183, 35, 129, 77, 116, 45, 169, 3,
    28, 131, 231, 95, 219, 121, 93, 86, 142, 117, 71, 128, 32, 0, 0, 0], rfl⟩

def usdcMainnet : Pubkey :=
  ⟨[198, 250, 122, 243, 190, 219, 173, 58, 61, 101, 243, 106, 171, 201, 116, 49,
    177, 187, 228, 194, 210, 246, 224, 228, 124, 166, 2, 3, 69, 47, 93, 97],
    rfl⟩

/-- The SPL token program and the associated-token-account program, under
which the wallet's USDC account is derived. -/
def tokenProgramId : Pubkey :=
  ⟨[6, 221, 246, 225, 215, 101, 161, 147, 217, 203, 225, 70, 206, 235, 121, 172,
    28, 180, 133, 237, 95, 91, 55, 145, 58, 140, 245, 133, 126, 255, 0, 169],
    rfl⟩

def associatedTokenProgramId : Pubkey :=
  ⟨[140, 151, 37, 143, 78, 36, 137, 241, 187, 61, 16, 41, 20, 142, 13, 131,
    11, 90, 19, 153, 218, 255, 16, 132, 4, 142, 123, 216, 219, 233, 248, 89],
    rfl⟩

/-- The bytes of an ASCII literal, Rust's `b"..."`. -/
def ascii (text : String) : Bytes :=
  text.toList.map fun character => Fin.ofNat 256 character.toNat

def vaultSeed : Bytes := ascii "vault"
def sessionSeed : Bytes := ascii "session"
def lockedClaimSeed : Bytes := ascii "locked-claim"
def standbyBackerSeed : Bytes := ascii "standby-backer"
def swigWalletAddressSeed : Bytes := ascii "swig-wallet-address"

def vaultVersionV2 : U8 := 2
def vaultVersionV3 : U8 := 3
def vaultVersionV4 : U8 := 4
def vaultVersionV5 : U8 := 5
def vaultVersionV6 : U8 := 6
def sessionVersionV1 : U8 := 1
def lockedClaimVersionV1 : U8 := 1
def standbyBackerVersionV1 : U8 := 1

/-! ## Account data -/

structure PendingWithdrawal where
  amount : U64
  destination : Pubkey
  requestedAt : I64
  deriving DecidableEq

structure SessionRegistration where
  sessionPubkey : FixedBytes 32
  maxAmount : U64
  expiresAt : I64
  allowedCounterparty : Pubkey
  nonce : U32
  spent : U64
  currentOutstanding : U64
  maxRevolvingCapacity : U64
  crystallizedCumulative : U64
  lastLockedSequence : U32
  deriving DecidableEq

/-- The all-zero registration that revoke and the expired-sibling sweep write. -/
def SessionRegistration.cleared : SessionRegistration where
  sessionPubkey := FixedBytes.zero
  maxAmount := 0
  expiresAt := I64.zero
  allowedCounterparty := defaultPubkey
  nonce := 0
  spent := 0
  currentOutstanding := 0
  maxRevolvingCapacity := 0
  crystallizedCumulative := 0
  lastLockedSequence := 0

structure Vault where
  version : U8
  bump : U8
  passkeyPubkey : PasskeyPubkey
  swigAddress : Pubkey
  coolingOffSeconds : U32
  pendingVoucherCount : U32
  pendingWithdrawal : Option PendingWithdrawal
  identityClaim : FixedBytes 32
  dexterAuthority : Pubkey
  liveSessionCount : U8
  outstandingLockedAmount : U64
  totalCrystallizedAmount : U64
  totalSettledAmount : U64
  borrowed : U64
  standbyBacker : Option Pubkey
  standbyCap : U64
  borrowRecoveryAt : Option I64
  deriving DecidableEq

/-- The V5 layout that `migrate_v5_to_v6` reads: the session is still a field of
the vault. -/
structure VaultV5Reader where
  version : U8
  bump : U8
  passkeyPubkey : PasskeyPubkey
  swigAddress : Pubkey
  coolingOffSeconds : U32
  pendingVoucherCount : U32
  pendingWithdrawal : Option PendingWithdrawal
  identityClaim : FixedBytes 32
  dexterAuthority : Pubkey
  activeSession : Option SessionRegistration
  outstandingLockedAmount : U64
  totalCrystallizedAmount : U64
  totalSettledAmount : U64
  borrowed : U64
  standbyBacker : Option Pubkey
  standbyCap : U64
  borrowRecoveryAt : Option I64
  deriving DecidableEq

structure SessionAccount where
  version : U8
  bump : U8
  vault : Pubkey
  session : SessionRegistration
  deriving DecidableEq

/-- The runtime-zeroed body of a freshly created session account. -/
def SessionAccount.zeroed : SessionAccount :=
  ⟨0, 0, defaultPubkey, SessionRegistration.cleared⟩

/-- What revoke and the sweep leave in place: `bump` and `vault` survive. -/
def SessionAccount.clear (account : SessionAccount) : SessionAccount :=
  { account with version := 0, session := SessionRegistration.cleared }

inductive LockedClaimStatus
  | pending
  | settled
  | abandoned
  deriving DecidableEq

structure LockedClaim where
  version : U8
  bump : U8
  vault : Pubkey
  sessionPubkeyAtLock : FixedBytes 32
  voucherHash : FixedBytes 32
  amount : U64
  createdAt : I64
  maturityAt : Option I64
  holderRecoveryAt : Option I64
  currentHolder : Pubkey
  status : LockedClaimStatus
  settledAt : Option I64
  recoveredAt : Option I64
  deriving DecidableEq

inductive ReserveKind
  | declared
  | locked
  deriving DecidableEq

structure StandbyBacker where
  version : U8
  bump : U8
  financierSwig : Pubkey
  committedReserve : U64
  aggregatePromised : U64
  reserveKind : ReserveKind
  deriving DecidableEq

/-- The fields of an SPL token account that the program reads. -/
structure TokenAccount where
  mint : Pubkey
  owner : Pubkey
  amount : U64
  deriving DecidableEq

/-- The data of an account owned by the program.  A V5 image keeps its own
constructor: it becomes a `Vault` only through `migrate_v5_to_v6`. -/
inductive Account
  | vault (data : Vault)
  | vaultV5 (data : VaultV5Reader)
  | session (data : SessionAccount)
  | claim (data : LockedClaim)
  | standbyBacker (data : StandbyBacker)
  deriving DecidableEq

/-! ## Errors -/

inductive VaultError
  | coolingOffNotElapsed
  | pendingVouchersExist
  | noPendingWithdrawal
  | passkeyVerificationFailed
  | invalidVoucherSignature
  | forceReleaseTooEarly
  | nothingToRelease
  | unsupportedVaultVersion
  | sessionAlreadyActive
  | sessionExpiryInPast
  | sessionCapZero
  | noActiveSession
  | sessionPubkeyMismatch
  | revolvingCapacityExceeded
  | revolvingCapacityZero
  | lockRangeAlreadyClaimed
  | lockWouldOvercommitVault
  | withdrawalWouldViolateReservation
  | sessionWouldOvercommitVault
  | sessionAccountsNotSorted
  | sessionAccountForeign
  | sessionAccountMisderived
  | incompleteSessionSet
  | sessionCountAtMax
  | recoveryBeforeMaturity
  | standbyCapZero
  | creditWouldExceedStandbyCap
  | withdrawalWouldViolatePin
  | borrowRecoveryTooEarly
  | noStandbyBacker
  | nothingBorrowed
  | standbyWouldExceedReserve
  | reserveBelowPromised
  | resizeBelowBorrowed
  | standbyStillBorrowed
  | noStandbyBackerLedger
  | standbyBackerMismatch
  | financierConsentMissing
  | sessionAccountNotWritable
  | sessionStillLive
  | notALegacyVault
  deriving DecidableEq

/-- Failures raised by the framework and the runtime around a handler. -/
inductive RuntimeError
  | accountNotInitialized
  | accountDiscriminatorMismatch
  | accountAlreadyInUse
  | constraintAddress
  | constraintOwner
  | constraintSeeds
  | constraintSigner
  | instructionIndexOutOfRange
  | arithmeticOverflow
  | accountDiscriminatorNotFound
  | accountDidNotDeserialize
  | accountDidNotSerialize
  | borshIo
  | insufficientLamports
  deriving DecidableEq

inductive ProgramError
  | vault (error : VaultError)
  | runtime (error : RuntimeError)
  deriving DecidableEq

instance : Coe VaultError ProgramError := ⟨.vault⟩
instance : Coe RuntimeError ProgramError := ⟨.runtime⟩

abbrev Result := Except ProgramError

/-- The accounts of the program and the token accounts around them. -/
structure State where
  accounts : Store Pubkey Account
  tokens : Store Pubkey TokenAccount

instance : DecidableEq State := fun left right =>
  decidable_of_iff
    (left.accounts = right.accounts ∧ left.tokens = right.tokens)
    (by cases left; cases right; simp)

/-! ## Reading and writing accounts -/

def Account.vault? : Account → Option Vault
  | .vault data => some data
  | _ => none

def Account.vaultV5? : Account → Option VaultV5Reader
  | .vaultV5 data => some data
  | _ => none

def Account.session? : Account → Option SessionAccount
  | .session data => some data
  | _ => none

def Account.claim? : Account → Option LockedClaim
  | .claim data => some data
  | _ => none

def Account.standbyBacker? : Account → Option StandbyBacker
  | .standbyBacker data => some data
  | _ => none

theorem Account.vault?_eq_some_iff {account : Account} {data : Vault} :
    account.vault? = some data ↔ account = .vault data := by
  cases account <;> simp [Account.vault?]

theorem Account.session?_eq_some_iff {account : Account}
    {data : SessionAccount} :
    account.session? = some data ↔ account = .session data := by
  cases account <;> simp [Account.session?]

theorem Account.claim?_eq_some_iff {account : Account} {data : LockedClaim} :
    account.claim? = some data ↔ account = .claim data := by
  cases account <;> simp [Account.claim?]

namespace State

def write (state : State) (key : Pubkey) (account : Account) : State :=
  { state with accounts := state.accounts.insert key account }

/-- Closing an account empties its address. -/
def close (state : State) (key : Pubkey) : State :=
  { state with accounts := state.accounts.erase key }

/-- The account at an address, read as one type of account. -/
def view {Data : Type} (read : Account → Option Data) (state : State)
    (key : Pubkey) : Option Data :=
  (state.accounts.lookup key).bind read

abbrev vault? (state : State) (key : Pubkey) : Option Vault :=
  state.view Account.vault? key

abbrev vaultV5? (state : State) (key : Pubkey) : Option VaultV5Reader :=
  state.view Account.vaultV5? key

abbrev session? (state : State) (key : Pubkey) : Option SessionAccount :=
  state.view Account.session? key

abbrev claim? (state : State) (key : Pubkey) : Option LockedClaim :=
  state.view Account.claim? key

abbrev standbyBacker? (state : State) (key : Pubkey) : Option StandbyBacker :=
  state.view Account.standbyBacker? key

variable {state : State} {key other : Pubkey} {account : Account}
  {Data : Type} {read : Account → Option Data}

theorem view_write :
    (state.write key account).view read other =
      if other = key then read account else state.view read other := by
  by_cases hkey : other = key
  · subst hkey
    simp [view, write, Finmap.lookup_insert]
  · simp [view, write, Finmap.lookup_insert_of_ne _ hkey, hkey]

@[simp]
theorem view_write_self : (state.write key account).view read key = read account := by
  simp [view_write]

theorem view_close :
    (state.close key).view read other =
      if other = key then none else state.view read other := by
  by_cases hkey : other = key
  · subst hkey
    simp [view, close]
  · simp [view, close, Finmap.lookup_erase_ne hkey, hkey]

@[simp]
theorem write_tokens : (state.write key account).tokens = state.tokens := rfl

@[simp]
theorem close_tokens : (state.close key).tokens = state.tokens := rfl

theorem lookup_of_vault? {data : Vault} (hvault : state.vault? key = some data) :
    state.accounts.lookup key = some (.vault data) := by
  obtain ⟨account, hlookup, hread⟩ := Option.bind_eq_some_iff.mp hvault
  rw [hlookup, Account.vault?_eq_some_iff.mp hread]

theorem lookup_of_session? {data : SessionAccount}
    (hsession : state.session? key = some data) :
    state.accounts.lookup key = some (.session data) := by
  obtain ⟨account, hlookup, hread⟩ := Option.bind_eq_some_iff.mp hsession
  rw [hlookup, Account.session?_eq_some_iff.mp hread]

theorem lookup_of_claim? {data : LockedClaim}
    (hclaim : state.claim? key = some data) :
    state.accounts.lookup key = some (.claim data) := by
  obtain ⟨account, hlookup, hread⟩ := Option.bind_eq_some_iff.mp hclaim
  rw [hlookup, Account.claim?_eq_some_iff.mp hread]

theorem view_of_lookup (hlookup : state.accounts.lookup key = some account) :
    state.view read key = read account := by
  simp [view, hlookup]

theorem view_of_lookup_none (hlookup : state.accounts.lookup key = none) :
    state.view read key = none := by
  simp [view, hlookup]

end State

end DexterVault.Accounts
