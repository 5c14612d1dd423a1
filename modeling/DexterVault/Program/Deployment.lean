import DexterVault.Core.Sha256
import DexterVault.Program.Step

/-!
# A deployment in which the program runs

A runtime whose derived addresses are given by a table and whose hash is
SHA-256, together with the transactions that a wallet and a session key build:
the assertion of a passkey over an operation, and a signed voucher.  A table in
which no address occurs twice is collision-free.  One sample vault is taken as far
as its first session and lock, where the runs of the other modules go on.
-/

namespace DexterVault.Deployment

open DexterVault.Machine
open DexterVault.Framing
open DexterVault.Accounts
open DexterVault.Execution
open DexterVault.Introspection
open DexterVault.Transition
open DexterVault.Webauthn
open DexterVault.Setup
open DexterVault.Session
open DexterVault.Voucher
open DexterVault.Withdrawal
open DexterVault.Program

/-- One derived address: the concatenated seeds with the bump, the program they
belong to and the address. -/
structure Derivation where
  seeds : Bytes
  program : Pubkey
  address : Pubkey

def derivedAddress (table : List Derivation) (seeds : List Bytes)
    (program : Pubkey) : Option Pubkey :=
  (table.find? fun entry =>
    entry.seeds = seeds.flatten ∧ entry.program = program).map
      Derivation.address

def tableRuntime (table : List Derivation) : Runtime where
  sha256 := Sha256.digest
  createProgramAddress := derivedAddress table

theorem tableRuntime_collisionFree {table : List Derivation}
    (hdistinct : (table.map Derivation.address).Nodup) :
    (tableRuntime table).CollisionFree := by
  have hinjective : ∀ left ∈ table, ∀ right ∈ table,
      left.address = right.address → left = right :=
    List.inj_on_of_nodup_map hdistinct
  intro left leftProgram right rightProgram address hleft hright
  obtain ⟨leftEntry, hleftFind, hleftAddress⟩ := Option.map_eq_some_iff.mp hleft
  obtain ⟨rightEntry, hrightFind, hrightAddress⟩ :=
    Option.map_eq_some_iff.mp hright
  have hleftSeeds := List.find?_some hleftFind
  have hrightSeeds := List.find?_some hrightFind
  simp only [decide_eq_true_eq] at hleftSeeds hrightSeeds
  obtain rfl : leftEntry = rightEntry :=
    hinjective _ (List.mem_of_find?_eq_some hleftFind) _
      (List.mem_of_find?_eq_some hrightFind)
      (hleftAddress.trans hrightAddress.symm)
  exact ⟨hleftSeeds.1.symm.trans hrightSeeds.1,
    hleftSeeds.2.symm.trans hrightSeeds.2⟩

/-! ## What wallets and sellers sign -/

/-- The symbol of a base64url digit. -/
def base64urlSymbol (value : ℕ) : Byte :=
  Fin.ofNat 256
    (if value < 26 then value + 65
    else if value < 52 then value - 26 + 97
    else if value < 62 then value - 52 + 48
    else if value = 62 then 45
    else 95)

/-- base64url without padding. -/
def base64urlEncode : Bytes → Bytes
  | [] => []
  | [a] =>
      [base64urlSymbol (a.val / 4), base64urlSymbol (a.val % 4 * 16)]
  | [a, b] =>
      [base64urlSymbol (a.val / 4),
        base64urlSymbol (a.val % 4 * 16 + b.val / 16),
        base64urlSymbol (b.val % 16 * 4)]
  | a :: b :: c :: rest =>
      base64urlSymbol (a.val / 4) ::
        base64urlSymbol (a.val % 4 * 16 + b.val / 16) ::
        base64urlSymbol (b.val % 16 * 4 + c.val / 64) ::
        base64urlSymbol (c.val % 64) :: base64urlEncode rest

def clientDataJson (challenge : FixedBytes 32) : Bytes :=
  ascii "\x7b\"type\":\"webauthn.get\"," ++ challengeKey ++
    base64urlEncode challenge.toList ++
    ascii "\",\"origin\":\"https://dexter.cash\"\x7d"

/-- The hash of the relying party, the flags and the counter. -/
def authenticatorData : Bytes := List.replicate 32 7 ++ [5, 0, 0, 0, 1]

def assertion (operation : Bytes) : Assertion where
  clientDataJson := clientDataJson (Sha256.digest operation)
  authenticatorData := authenticatorData

/-- The transaction that carries the assertion of a passkey.  The signature is
for the precompile to check. -/
def passkeyContext (passkey : PasskeyPubkey) (operation : Bytes)
    (signers : List Pubkey) (now : I64) : Context :=
  signedContext secp256r1VerifyProgramId passkey.toList (List.replicate 64 1)
    (authenticatorData ++
      (Sha256.digest (assertion operation).clientDataJson).toList)
    signers now

def voucherContext (session : FixedBytes 32) (payload : VoucherPayload)
    (signers : List Pubkey) (now : I64) : Context :=
  signedContext ed25519VerifyProgramId session.toList (List.replicate 64 1)
    (voucherMessage payload) signers now

/-- A transaction without a signature precompile. -/
def plainContext (signers : List Pubkey) (now : I64) : Context where
  instructions := [⟨programId, []⟩]
  currentIndex := 0
  signers := signers
  unixTimestamp := now

/-! ## A sample deployment

One vault whose wallet holds 100 units of USDC, the session addresses of two
sellers and of the all-zero counterparty, and the claim address of one
voucher. -/

/-- A key whose bytes are all equal. -/
def filled {length : ℕ} (byte : Byte) : FixedBytes length :=
  List.Vector.replicate length byte

def identityClaim : FixedBytes 32 := filled 1
def authority : Pubkey := filled 2
def swig : Pubkey := filled 83
def seller : Pubkey := filled 61
def otherSeller : Pubkey := filled 62
def passkey : PasskeyPubkey := ⟨2 :: List.replicate 32 80, rfl⟩
def rivalIdentity : FixedBytes 32 := filled 3
def rivalPasskey : PasskeyPubkey := ⟨2 :: List.replicate 32 81, rfl⟩
def sessionPubkey : FixedBytes 32 := filled 90
def now : I64 := I64.saturate 1000
def expiry : I64 := I64.saturate 2000

def vaultKey : Pubkey :=
  ⟨[133, 41, 231, 236, 153, 41, 42, 235, 129, 235, 21, 89, 253, 195, 114,
    104, 120, 236, 13, 110, 1, 205, 117, 140, 26, 119, 62, 250, 122, 191, 90,
    195], rfl⟩

def rivalVault : Pubkey :=
  ⟨[164, 23, 80, 178, 224, 84, 45, 126, 209, 189, 84, 83, 20, 32, 179, 216,
    173, 143, 130, 204, 138, 71, 2, 173, 185, 252, 247, 241, 195, 45, 153, 68],
    rfl⟩

def walletKey : Pubkey :=
  ⟨[84, 192, 29, 101, 126, 215, 154, 232, 44, 20, 70, 19, 30, 218, 109, 0,
    192, 200, 103, 23, 165, 44, 195, 148, 243, 239, 12, 104, 43, 205, 253, 225], rfl⟩

def ataKey : Pubkey :=
  ⟨[89, 5, 38, 139, 74, 30, 32, 143, 225, 58, 91, 72, 49, 42, 110, 165, 73,
    230, 15, 172, 116, 230, 54, 223, 161, 126, 70, 209, 84, 139, 76, 130], rfl⟩

def sellerSession : Pubkey :=
  ⟨[183, 197, 208, 163, 169, 90, 23, 240, 255, 67, 94, 211, 92, 24, 60, 66,
    144, 150, 230, 100, 160, 244, 72, 102, 92, 241, 106, 107, 18, 185, 99, 72], rfl⟩

def otherSession : Pubkey :=
  ⟨[23, 147, 176, 194, 180, 184, 122, 43, 86, 189, 204, 121, 71, 185, 123,
    39, 165, 152, 114, 23, 166, 53, 93, 167, 179, 157, 54, 27, 51, 38, 251,
    100], rfl⟩

def zeroSession : Pubkey :=
  ⟨[78, 81, 145, 251, 55, 163, 234, 97, 30, 4, 102, 133, 218, 38, 125, 141,
    7, 78, 77, 243, 29, 223, 77, 57, 232, 238, 175, 2, 162, 153, 43, 16], rfl⟩

def claimKey : Pubkey :=
  ⟨[87, 35, 38, 201, 68, 231, 162, 31, 196, 143, 57, 206, 138, 242, 200, 83,
    19, 9, 131, 110, 190, 212, 84, 108, 17, 193, 204, 40, 102, 78, 153, 121], rfl⟩

/-- A voucher of the sample session. -/
def voucherOf (cumulativeAmount : U64) : VoucherPayload :=
  ⟨filled 2, cumulativeAmount, 1⟩

/-- The addresses above, each with the seeds it is derived from. -/
def derivations : List Derivation :=
  [⟨(vaultSeeds identityClaim ++ [[255]]).flatten, programId, vaultKey⟩,
    ⟨(vaultSeeds rivalIdentity ++ [[255]]).flatten, programId, rivalVault⟩,
    ⟨(swigWalletSeeds swig ++ [[255]]).flatten, swigProgramId, walletKey⟩,
    ⟨[walletKey.toList, tokenProgramId.toList, usdcMainnet.toList,
      [255]].flatten, associatedTokenProgramId, ataKey⟩,
    ⟨(sessionSeeds vaultKey seller ++ [[255]]).flatten, programId,
      sellerSession⟩,
    ⟨(sessionSeeds vaultKey otherSeller ++ [[255]]).flatten, programId,
      otherSession⟩,
    ⟨(sessionSeeds vaultKey defaultPubkey ++ [[255]]).flatten, programId,
      zeroSession⟩,
    ⟨(claimSeeds vaultKey (Sha256.digest (voucherMessage (voucherOf 60))) ++
      [[255]]).flatten, programId, claimKey⟩]

def sampleRuntime : Runtime := tableRuntime derivations

theorem sampleRuntime_collisionFree : sampleRuntime.CollisionFree :=
  tableRuntime_collisionFree (by decide +kernel)

def createVault : Call :=
  .initializeVault (plainContext [authority] now)
    ⟨vaultKey, authority, authority⟩ ⟨passkey, 0, identityClaim⟩

def bindSwig : Call :=
  .setSwig (passkeyContext passkey (setSwigMessage swig) [] now) vaultKey
    ⟨assertion (setSwigMessage swig), swig⟩

/-- The scope of a session key for `counterparty`. -/
def sessionScope (counterparty : Pubkey) (maxAmount : U64) :
    RegisterSessionKeyArgs :=
  ⟨⟨[], []⟩, sessionPubkey, maxAmount, expiry, counterparty, 0, maxAmount⟩

def registrationMessage (counterparty : Pubkey) (maxAmount : U64) : Bytes :=
  buildRegistrationMessage programId vaultKey
    (sessionScope counterparty maxAmount)

def registrationAccounts (account : Pubkey) (siblings : List AccountMeta) :
    RegisterSessionKey :=
  ⟨vaultKey, ataKey, swig, walletKey, account, authority, siblings⟩

def registrationArgs (counterparty : Pubkey) (maxAmount : U64) :
    RegisterSessionKeyArgs :=
  { sessionScope counterparty maxAmount with
    toAssertion := assertion (registrationMessage counterparty maxAmount) }

/-- The registration of a session, endorsed by the passkey. -/
def registerFor (counterparty account : Pubkey) (maxAmount : U64)
    (siblings : List AccountMeta) : Call :=
  .registerSessionKey
    (passkeyContext passkey (registrationMessage counterparty maxAmount)
      [authority] now)
    (registrationAccounts account siblings)
    (registrationArgs counterparty maxAmount)

/-- The revocation of a session of `sessionPubkey`. -/
def revokeFor (counterparty account : Pubkey) : Call :=
  let message := buildRevocationMessage programId vaultKey sessionPubkey
  .revokeSessionKey (passkeyContext passkey message [] now)
    ⟨vaultKey, account⟩ ⟨assertion message, counterparty⟩

def settleTab (cumulativeAmount : U64) : Call :=
  .settleTabVoucher
    (voucherContext sessionPubkey (voucherOf cumulativeAmount) [authority] now)
    ⟨swig, walletKey, vaultKey, sellerSession, authority⟩
    ⟨voucherOf cumulativeAmount, seller⟩

def lockTab (cumulativeAmount : U64) : Call :=
  .lockVoucher
    (voucherContext sessionPubkey (voucherOf cumulativeAmount)
      [authority, seller] now)
    ⟨vaultKey, ataKey, swig, walletKey, sellerSession, claimKey, seller,
      authority, authority⟩
    ⟨voucherOf cumulativeAmount,
      Sha256.digest (voucherMessage (voucherOf cumulativeAmount)), none, none,
      seller⟩

/-- The vault's authority opens a tab on a session. -/
def openTab (counterparty account : Pubkey) (amount : U64) (now : I64) : Call :=
  .settleVoucher (plainContext [authority] now)
    ⟨vaultKey, authority, some account⟩ ⟨amount, true, counterparty⟩

def withdrawalDestination : Pubkey := filled 70

/-- A withdrawal of 10 as signed at the time. -/
def withdrawalScope (signedAt : I64) : RequestWithdrawalArgs :=
  ⟨⟨[], []⟩, 10, withdrawalDestination, signedAt⟩

/-- The request of that withdrawal, endorsed and landed at the time it names. -/
def requestAt (signedAt : I64) : Call :=
  let message := requestWithdrawalMessage (withdrawalScope signedAt)
  .requestWithdrawal (passkeyContext passkey message [] signedAt) vaultKey
    { withdrawalScope signedAt with toAssertion := assertion message }

def finalizeAt (now : I64) : Call :=
  let message := finalizeWithdrawalMessage (withdrawalScope now).pending
  .finalizeWithdrawal (passkeyContext passkey message [] now)
    ⟨swig, walletKey, vaultKey, ataKey⟩ (assertion message)

def releaseAt (now : I64) : Call :=
  let message := forceReleaseMessage swig
  .forceRelease (passkeyContext passkey message [] now) vaultKey
    (assertion message)

/-- No account of the program exists, and the wallet holds 100 units. -/
def funded : State where
  accounts := ∅
  tokens := Finmap.singleton ataKey ⟨usdcMainnet, walletKey, 100⟩

theorem onlyImages_funded : OnlyImages funded := onlyImages_genesis

def boundVault : Vault :=
  { newVault 255 authority ⟨passkey, 0, identityClaim⟩ with
    swigAddress := swig }

def created : State :=
  funded.write vaultKey (.vault (newVault 255 authority ⟨passkey, 0, identityClaim⟩))

def bound : State := funded.write vaultKey (.vault boundVault)

/-- The session of the seller, registered with a cap of 100. -/
def sellerAccount (spent crystallizedCumulative : U64)
    (lastLockedSequence : U32) : SessionAccount :=
  ⟨1, 255, vaultKey,
    { (sessionScope seller 100).registration with
      spent := spent
      crystallizedCumulative := crystallizedCumulative
      lastLockedSequence := lastLockedSequence }⟩

def registeredVault : Vault := { boundVault with liveSessionCount := 1 }

def registered : State :=
  (funded.write vaultKey (.vault registeredVault)).write sellerSession
    (.session (sellerAccount 0 0 0))

def settled : State :=
  (funded.write vaultKey (.vault registeredVault)).write sellerSession
    (.session (sellerAccount 60 0 0))

def lockedVault : Vault :=
  { registeredVault with
    outstandingLockedAmount := 60
    totalCrystallizedAmount := 60 }

def lockedClaim : LockedClaim where
  version := 1
  bump := 255
  vault := vaultKey
  sessionPubkeyAtLock := sessionPubkey
  voucherHash := Sha256.digest (voucherMessage (voucherOf 60))
  amount := 60
  createdAt := now
  maturityAt := none
  holderRecoveryAt := none
  currentHolder := seller
  status := .pending
  settledAt := none
  recoveredAt := none

def locked : State :=
  ((funded.write vaultKey (.vault lockedVault)).write claimKey
    (.claim lockedClaim)).write sellerSession (.session (sellerAccount 0 60 1))

def lockedSettled : State :=
  locked.write sellerSession (.session (sellerAccount 100 60 1))

/-- The calls on the sample vault: it is created and its swig bound, and the
session of the seller settles a voucher and is registered again, or locks one
voucher and settles the next. -/
theorem sample_steps :
    step sampleRuntime funded createVault = .ok created ∧
      step sampleRuntime created bindSwig = .ok bound ∧
      step sampleRuntime bound (registerFor seller sellerSession 100 []) =
        .ok registered ∧
      step sampleRuntime registered (settleTab 60) = .ok settled ∧
      step sampleRuntime settled (registerFor seller sellerSession 100 []) =
        .ok registered ∧
      step sampleRuntime registered (lockTab 60) = .ok locked ∧
      step sampleRuntime locked (settleTab 100) = .ok lockedSettled := by
  decide +kernel

def boundTrace : Trace :=
  [⟨created, bindSwig, bound⟩, ⟨funded, createVault, created⟩]

def registeredTrace : Trace :=
  ⟨bound, registerFor seller sellerSession 100 [], registered⟩ :: boundTrace

/-- The vault is created and its swig is bound. -/
theorem bound_run : Run (system sampleRuntime) funded boundTrace bound := by
  obtain ⟨hcreate, hbind, -⟩ := sample_steps
  have hcreated : Run (system sampleRuntime) funded
      [⟨funded, createVault, created⟩] created := .accept .start hcreate
  exact hcreated.accept hbind

/-- The passkey then endorses a session of the seller. -/
theorem registered_run :
    Run (system sampleRuntime) funded registeredTrace registered := by
  obtain ⟨-, -, hregister, -⟩ := sample_steps
  exact bound_run.accept hregister

/-- The session locks a voucher of 60. -/
def lockedTrace : Trace :=
  ⟨registered, lockTab 60, locked⟩ :: registeredTrace

theorem locked_run : Run (system sampleRuntime) funded lockedTrace locked := by
  obtain ⟨-, -, -, -, -, hlock, -⟩ := sample_steps
  exact registered_run.accept hlock

/-! ## A second vault bound to the same swig -/

def createRival : Call :=
  .initializeVault (plainContext [authority] now)
    ⟨rivalVault, authority, authority⟩ ⟨rivalPasskey, 0, rivalIdentity⟩

def bindRival : Call :=
  .setSwig (passkeyContext rivalPasskey (setSwigMessage swig) [] now) rivalVault
    ⟨assertion (setSwigMessage swig), swig⟩

def createdRival : Vault :=
  newVault 255 authority ⟨rivalPasskey, 0, rivalIdentity⟩

def rivalCreated : State := bound.write rivalVault (.vault createdRival)

def rivalBound : State :=
  bound.write rivalVault (.vault { createdRival with swigAddress := swig })

theorem rival_steps :
    step sampleRuntime bound createRival = .ok rivalCreated ∧
      step sampleRuntime rivalCreated bindRival = .ok rivalBound := by
  decide +kernel

end DexterVault.Deployment
