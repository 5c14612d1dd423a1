import DexterVault.Core.Sha256
import DexterVault.Core.Wire
import DexterVault.Instructions.SetSwigAtomic
import DexterVault.Program.Step

/-!
# The entry point of the program

An instruction reaches the program as bytes.  The first eight select one of the
thirty functions of `lib.rs`, the rest are its arguments in Borsh; bytes behind
the arguments are ignored.
-/

namespace DexterVault.Entrypoints

open DexterVault.Machine
open DexterVault.Framing
open DexterVault.Borsh
open DexterVault.Borsh.Codec
open DexterVault.Wire
open DexterVault.Wire.Format
open DexterVault.Accounts
open DexterVault.Webauthn
open DexterVault.Setup
open DexterVault.Withdrawal
open DexterVault.Session
open DexterVault.Voucher
open DexterVault.Claim
open DexterVault.Credit
open DexterVault.Migration

/-! ## The functions -/

inductive Entrypoint
  | initializeVault
  | setSwig
  | settleVoucher
  | requestWithdrawal
  | finalizeWithdrawal
  | forceRelease
  | rotatePasskey
  | rotateDexterAuthority
  | provePasskey
  | registerSessionKey
  | revokeSessionKey
  | settleTabVoucher
  | setSwigAtomic
  | migrateV2ToV3
  | migrateV3ToV4
  | migrateV4ToV5
  | migrateV5ToV6
  | migrateV5ToV6WithSession
  | migrateLegacyToV6
  | lockVoucher
  | transferLockOwnership
  | settleLockedVoucher
  | recoverAbandonedLock
  | openStandby
  | drawCredit
  | repayCredit
  | seizeCollateral
  | setStandbyReserve
  | closeStandby
  | closeSession
  deriving DecidableEq

namespace Entrypoint

def entrypoints : List Entrypoint :=
  [.initializeVault, .setSwig, .settleVoucher, .requestWithdrawal,
    .finalizeWithdrawal, .forceRelease, .rotatePasskey, .rotateDexterAuthority,
    .provePasskey, .registerSessionKey, .revokeSessionKey, .settleTabVoucher,
    .setSwigAtomic, .migrateV2ToV3, .migrateV3ToV4, .migrateV4ToV5,
    .migrateV5ToV6, .migrateV5ToV6WithSession, .migrateLegacyToV6,
    .lockVoucher, .transferLockOwnership, .settleLockedVoucher,
    .recoverAbandonedLock, .openStandby, .drawCredit, .repayCredit,
    .seizeCollateral, .setStandbyReserve, .closeStandby, .closeSession]

def name : Entrypoint → String
  | .initializeVault => "initialize_vault"
  | .setSwig => "set_swig"
  | .settleVoucher => "settle_voucher"
  | .requestWithdrawal => "request_withdrawal"
  | .finalizeWithdrawal => "finalize_withdrawal"
  | .forceRelease => "force_release"
  | .rotatePasskey => "rotate_passkey"
  | .rotateDexterAuthority => "rotate_dexter_authority"
  | .provePasskey => "prove_passkey"
  | .registerSessionKey => "register_session_key"
  | .revokeSessionKey => "revoke_session_key"
  | .settleTabVoucher => "settle_tab_voucher"
  | .setSwigAtomic => "set_swig_atomic"
  | .migrateV2ToV3 => "migrate_v2_to_v3"
  | .migrateV3ToV4 => "migrate_v3_to_v4"
  | .migrateV4ToV5 => "migrate_v4_to_v5"
  | .migrateV5ToV6 => "migrate_v5_to_v6"
  | .migrateV5ToV6WithSession => "migrate_v5_to_v6_with_session"
  | .migrateLegacyToV6 => "migrate_legacy_to_v6"
  | .lockVoucher => "lock_voucher"
  | .transferLockOwnership => "transfer_lock_ownership"
  | .settleLockedVoucher => "settle_locked_voucher"
  | .recoverAbandonedLock => "recover_abandoned_lock"
  | .openStandby => "open_standby"
  | .drawCredit => "draw_credit"
  | .repayCredit => "repay_credit"
  | .seizeCollateral => "seize_collateral"
  | .setStandbyReserve => "set_standby_reserve"
  | .closeStandby => "close_standby"
  | .closeSession => "close_session"

/-- The constants that the framework derives from the names. -/
def discriminator : Entrypoint → Bytes
  | .initializeVault => [48, 191, 163, 44, 71, 129, 63, 164]
  | .setSwig => [253, 229, 89, 206, 192, 118, 137, 165]
  | .settleVoucher => [144, 176, 128, 220, 156, 79, 41, 54]
  | .requestWithdrawal => [251, 85, 121, 205, 56, 201, 12, 177]
  | .finalizeWithdrawal => [178, 87, 206, 68, 201, 186, 164, 232]
  | .forceRelease => [122, 190, 243, 252, 54, 202, 208, 234]
  | .rotatePasskey => [28, 134, 49, 89, 196, 34, 58, 174]
  | .rotateDexterAuthority => [145, 60, 4, 119, 180, 205, 236, 134]
  | .provePasskey => [35, 175, 41, 143, 201, 118, 49, 184]
  | .registerSessionKey => [69, 94, 60, 44, 49, 199, 183, 233]
  | .revokeSessionKey => [81, 192, 32, 110, 104, 116, 144, 151]
  | .settleTabVoucher => [173, 22, 98, 31, 110, 129, 59, 161]
  | .setSwigAtomic => [119, 111, 247, 215, 190, 3, 170, 23]
  | .migrateV2ToV3 => [25, 157, 17, 205, 179, 34, 196, 207]
  | .migrateV3ToV4 => [28, 136, 16, 88, 66, 176, 223, 54]
  | .migrateV4ToV5 => [226, 105, 140, 184, 101, 39, 235, 116]
  | .migrateV5ToV6 => [25, 38, 151, 206, 59, 103, 141, 175]
  | .migrateV5ToV6WithSession => [225, 119, 165, 163, 251, 174, 42, 15]
  | .migrateLegacyToV6 => [177, 247, 69, 24, 166, 147, 67, 98]
  | .lockVoucher => [91, 138, 5, 227, 119, 239, 48, 254]
  | .transferLockOwnership => [193, 13, 131, 134, 95, 25, 229, 157]
  | .settleLockedVoucher => [44, 80, 216, 43, 247, 253, 101, 45]
  | .recoverAbandonedLock => [169, 213, 107, 64, 229, 49, 43, 234]
  | .openStandby => [234, 184, 232, 135, 246, 191, 90, 250]
  | .drawCredit => [20, 84, 47, 211, 78, 117, 195, 210]
  | .repayCredit => [38, 113, 240, 182, 109, 179, 154, 245]
  | .seizeCollateral => [40, 250, 7, 243, 168, 184, 116, 154]
  | .setStandbyReserve => [198, 227, 172, 10, 133, 119, 213, 7]
  | .closeStandby => [218, 35, 75, 51, 72, 244, 20, 108]
  | .closeSession => [68, 114, 178, 140, 222, 38, 248, 211]

theorem mem_entrypoints (entrypoint : Entrypoint) :
    entrypoint ∈ entrypoints := by
  cases entrypoint <;> decide

/-- The first eight bytes of the hash of the qualified name. -/
theorem discriminator_eq_hash : ∀ entrypoint ∈ entrypoints,
    discriminator entrypoint =
      (Sha256.digest (ascii "global:" ++ ascii entrypoint.name)).toList.take 8 := by
  decide +kernel

theorem discriminators_nodup : (entrypoints.map discriminator).Nodup := by
  decide

theorem discriminator_injective : Function.Injective discriminator :=
  fun left right heq => List.inj_on_of_nodup_map discriminators_nodup
    (mem_entrypoints left) (mem_entrypoints right) heq

@[simp]
theorem length_discriminator (entrypoint : Entrypoint) :
    (discriminator entrypoint).length = 8 := by
  cases entrypoint <;> rfl

/-- The one function with a discriminator. -/
def find (front : Bytes) : Option Entrypoint :=
  entrypoints.find? fun entrypoint => discriminator entrypoint == front

theorem discriminator_of_find {front : Bytes} {entrypoint : Entrypoint}
    (hfound : find front = some entrypoint) :
    discriminator entrypoint = front := by
  unfold find at hfound
  have hsame := List.find?_some hfound
  exact beq_iff_eq.mp hsame

theorem find_discriminator (entrypoint : Entrypoint) :
    find (discriminator entrypoint) = some entrypoint := by
  obtain ⟨found, hfound⟩ : ∃ found,
      find (discriminator entrypoint) = some found := by
    rw [← Option.isSome_iff_exists, find, List.find?_isSome]
    exact ⟨entrypoint, mem_entrypoints entrypoint, beq_self_eq_true _⟩
  rw [hfound, discriminator_injective (discriminator_of_find hfound)]

def tags : Tags Entrypoint where
  width := 8
  tag := discriminator
  length_tag := length_discriminator
  find := find
  find_eq_some_iff := by
    intro front entrypoint
    constructor
    · exact fun hfound => (discriminator_of_find hfound).symm
    · rintro rfl
      exact find_discriminator entrypoint

end Entrypoint

/-! ## The arguments -/

def closer : Codec Closer :=
  boolean.equiv
    { toFun
        | false => .user
        | true => .financier
      invFun
        | .user => false
        | .financier => true
      left_inv := by decide
      right_inv := by
        rintro (_ | _) <;> rfl }

/-- Both byte vectors are the last fields of every struct that has them. -/
def assertion : Format Assertion :=
  (vec.prod vec).equiv
    { toFun := fun (clientDataJson, authenticatorData) =>
        ⟨clientDataJson, authenticatorData⟩
      invFun := fun args => (args.clientDataJson, args.authenticatorData)
      left_inv := fun _ => rfl
      right_inv := fun _ => rfl }

def initializeVaultArgs : Format InitializeVaultArgs :=
  (ofCodec ((array 33).prod (u32.prod (array 32)))).equiv
    { toFun := fun (passkeyPubkey, coolingOffSeconds, identityClaim) =>
        ⟨passkeyPubkey, coolingOffSeconds, identityClaim⟩
      invFun := fun args =>
        (args.passkeyPubkey, args.coolingOffSeconds, args.identityClaim)
      left_inv := fun _ => rfl
      right_inv := fun _ => rfl }

def setSwigArgs : Format SetSwigArgs :=
  ((ofCodec (array 32)).prod assertion).equiv
    { toFun := fun (swigAddress, assertion) => ⟨assertion, swigAddress⟩
      invFun := fun args => (args.swigAddress, args.toAssertion)
      left_inv := fun _ => rfl
      right_inv := fun _ => rfl }

def setSwigAtomicArgs : Format SwigCalls.SetSwigAtomicArgs :=
  ((ofCodec ((array 32).prod (u8.prod (u8.prod (array 32))))).prod
    assertion).equiv
    { toFun := fun ((swigId, swigAccountBump, swigWalletAddressBump,
          dexterMasterPubkey), assertion) =>
        ⟨assertion, swigId, swigAccountBump, swigWalletAddressBump,
          dexterMasterPubkey⟩
      invFun := fun args =>
        ((args.swigId, args.swigAccountBump, args.swigWalletAddressBump,
          args.dexterMasterPubkey), args.toAssertion)
      left_inv := fun _ => rfl
      right_inv := fun _ => rfl }

def settleVoucherArgs : Format SettleVoucherArgs :=
  (ofCodec (u64.prod (boolean.prod (array 32)))).equiv
    { toFun := fun (amount, increment, allowedCounterparty) =>
        ⟨amount, increment, allowedCounterparty⟩
      invFun := fun args =>
        (args.amount, args.increment, args.allowedCounterparty)
      left_inv := fun _ => rfl
      right_inv := fun _ => rfl }

def requestWithdrawalArgs : Format RequestWithdrawalArgs :=
  ((ofCodec (u64.prod ((array 32).prod i64))).prod assertion).equiv
    { toFun := fun ((amount, destination, signedAt), assertion) =>
        ⟨assertion, amount, destination, signedAt⟩
      invFun := fun args =>
        ((args.amount, args.destination, args.signedAt), args.toAssertion)
      left_inv := fun _ => rfl
      right_inv := fun _ => rfl }

def rotatePasskeyArgs : Format RotatePasskeyArgs :=
  ((ofCodec (array 33)).prod assertion).equiv
    { toFun := fun (newPasskeyPubkey, assertion) =>
        ⟨assertion, newPasskeyPubkey⟩
      invFun := fun args => (args.newPasskeyPubkey, args.toAssertion)
      left_inv := fun _ => rfl
      right_inv := fun _ => rfl }

def rotateDexterAuthorityArgs : Format RotateDexterAuthorityArgs :=
  (ofCodec (array 32)).equiv
    { toFun := fun newDexterAuthority => ⟨newDexterAuthority⟩
      invFun := fun args => args.newDexterAuthority
      left_inv := fun _ => rfl
      right_inv := fun _ => rfl }

def provePasskeyArgs : Format ProvePasskeyArgs :=
  ((ofCodec (array 32)).prod assertion).equiv
    { toFun := fun (challenge, assertion) => ⟨assertion, challenge⟩
      invFun := fun args => (args.challenge, args.toAssertion)
      left_inv := fun _ => rfl
      right_inv := fun _ => rfl }

def registerSessionKeyArgs : Format RegisterSessionKeyArgs :=
  ((ofCodec ((array 32).prod (u64.prod (i64.prod ((array 32).prod
    (u32.prod u64)))))).prod assertion).equiv
    { toFun := fun ((sessionPubkey, maxAmount, expiresAt, allowedCounterparty,
          nonce, maxRevolvingCapacity), assertion) =>
        ⟨assertion, sessionPubkey, maxAmount, expiresAt, allowedCounterparty,
          nonce, maxRevolvingCapacity⟩
      invFun := fun args =>
        ((args.sessionPubkey, args.maxAmount, args.expiresAt,
          args.allowedCounterparty, args.nonce, args.maxRevolvingCapacity),
          args.toAssertion)
      left_inv := fun _ => rfl
      right_inv := fun _ => rfl }

def revokeSessionKeyArgs : Format RevokeSessionKeyArgs :=
  ((ofCodec (array 32)).prod assertion).equiv
    { toFun := fun (allowedCounterparty, assertion) =>
        ⟨assertion, allowedCounterparty⟩
      invFun := fun args => (args.allowedCounterparty, args.toAssertion)
      left_inv := fun _ => rfl
      right_inv := fun _ => rfl }

def settleTabVoucherArgs : Format SettleTabVoucherArgs :=
  (ofCodec ((array 32).prod (u64.prod (u32.prod (array 32))))).equiv
    { toFun := fun (channelId, cumulativeAmount, sequenceNumber,
          allowedCounterparty) =>
        ⟨⟨channelId, cumulativeAmount, sequenceNumber⟩, allowedCounterparty⟩
      invFun := fun args =>
        (args.channelId, args.cumulativeAmount, args.sequenceNumber,
          args.allowedCounterparty)
      left_inv := fun _ => rfl
      right_inv := fun _ => rfl }

def migrateV5ToV6WithSessionArgs : Format MigrateV5ToV6WithSessionArgs :=
  (ofCodec (array 32)).equiv
    { toFun := fun liveCounterparty => ⟨liveCounterparty⟩
      invFun := fun args => args.liveCounterparty
      left_inv := fun _ => rfl
      right_inv := fun _ => rfl }

def lockVoucherArgs : Format LockVoucherArgs :=
  (ofCodec ((array 32).prod (u64.prod (u32.prod ((array 32).prod
    ((Codec.option i64).prod ((Codec.option i64).prod (array 32)))))))).equiv
    { toFun := fun (channelId, cumulativeAmount, sequenceNumber, voucherHash,
          maturityAt, holderRecoveryAt, allowedCounterparty) =>
        ⟨⟨channelId, cumulativeAmount, sequenceNumber⟩, voucherHash, maturityAt,
          holderRecoveryAt, allowedCounterparty⟩
      invFun := fun args =>
        (args.channelId, args.cumulativeAmount, args.sequenceNumber,
          args.voucherHash, args.maturityAt, args.holderRecoveryAt,
          args.allowedCounterparty)
      left_inv := fun _ => rfl
      right_inv := fun _ => rfl }

def transferLockOwnershipArgs : Format TransferLockOwnershipArgs :=
  (ofCodec (array 32)).equiv
    { toFun := fun newHolder => ⟨newHolder⟩
      invFun := fun args => args.newHolder
      left_inv := fun _ => rfl
      right_inv := fun _ => rfl }

def openStandbyArgs : Format OpenStandbyArgs :=
  ((ofCodec u64).prod assertion).equiv
    { toFun := fun (cap, assertion) => ⟨assertion, cap⟩
      invFun := fun args => (args.cap, args.toAssertion)
      left_inv := fun _ => rfl
      right_inv := fun _ => rfl }

def drawCreditArgs : Format DrawCreditArgs :=
  (ofCodec (u64.prod i64)).equiv
    { toFun := fun (amount, recoveryWindowSeconds) =>
        ⟨amount, recoveryWindowSeconds⟩
      invFun := fun args => (args.amount, args.recoveryWindowSeconds)
      left_inv := fun _ => rfl
      right_inv := fun _ => rfl }

def repayCreditArgs : Format RepayCreditArgs :=
  (ofCodec u64).equiv
    { toFun := fun amount => ⟨amount⟩
      invFun := fun args => args.amount
      left_inv := fun _ => rfl
      right_inv := fun _ => rfl }

def setStandbyReserveArgs : Format SetStandbyReserveArgs :=
  (ofCodec u64).equiv
    { toFun := fun newReserve => ⟨newReserve⟩
      invFun := fun args => args.newReserve
      left_inv := fun _ => rfl
      right_inv := fun _ => rfl }

def closeStandbyArgs : Format CloseStandbyArgs :=
  ((ofCodec closer).prod assertion).equiv
    { toFun := fun (closer, assertion) => ⟨assertion, closer⟩
      invFun := fun args => (args.closer, args.toAssertion)
      left_inv := fun _ => rfl
      right_inv := fun _ => rfl }

def closeSessionArgs : Format CloseSessionArgs :=
  (ofCodec (array 32)).equiv
    { toFun := fun allowedCounterparty => ⟨allowedCounterparty⟩
      invFun := fun args => args.allowedCounterparty
      left_inv := fun _ => rfl
      right_inv := fun _ => rfl }

/-- The args struct of a function; `Unit` stands for those without fields. -/
def Args : Entrypoint → Type
  | .initializeVault => InitializeVaultArgs
  | .setSwig => SetSwigArgs
  | .settleVoucher => SettleVoucherArgs
  | .requestWithdrawal => RequestWithdrawalArgs
  | .finalizeWithdrawal | .forceRelease | .recoverAbandonedLock => Assertion
  | .rotatePasskey => RotatePasskeyArgs
  | .rotateDexterAuthority => RotateDexterAuthorityArgs
  | .provePasskey => ProvePasskeyArgs
  | .registerSessionKey => RegisterSessionKeyArgs
  | .revokeSessionKey => RevokeSessionKeyArgs
  | .settleTabVoucher => SettleTabVoucherArgs
  | .setSwigAtomic => SwigCalls.SetSwigAtomicArgs
  | .migrateV5ToV6WithSession => MigrateV5ToV6WithSessionArgs
  | .lockVoucher => LockVoucherArgs
  | .transferLockOwnership => TransferLockOwnershipArgs
  | .openStandby => OpenStandbyArgs
  | .drawCredit => DrawCreditArgs
  | .repayCredit => RepayCreditArgs
  | .setStandbyReserve => SetStandbyReserveArgs
  | .closeStandby => CloseStandbyArgs
  | .closeSession => CloseSessionArgs
  | .migrateV2ToV3 | .migrateV3ToV4 | .migrateV4ToV5 | .migrateV5ToV6
  | .migrateLegacyToV6 | .settleLockedVoucher | .seizeCollateral => Unit

def args : (entrypoint : Entrypoint) → Format (Args entrypoint)
  | .initializeVault => initializeVaultArgs
  | .setSwig => setSwigArgs
  | .settleVoucher => settleVoucherArgs
  | .requestWithdrawal => requestWithdrawalArgs
  | .finalizeWithdrawal | .forceRelease | .recoverAbandonedLock => assertion
  | .rotatePasskey => rotatePasskeyArgs
  | .rotateDexterAuthority => rotateDexterAuthorityArgs
  | .provePasskey => provePasskeyArgs
  | .registerSessionKey => registerSessionKeyArgs
  | .revokeSessionKey => revokeSessionKeyArgs
  | .settleTabVoucher => settleTabVoucherArgs
  | .setSwigAtomic => setSwigAtomicArgs
  | .migrateV5ToV6WithSession => migrateV5ToV6WithSessionArgs
  | .lockVoucher => lockVoucherArgs
  | .transferLockOwnership => transferLockOwnershipArgs
  | .openStandby => openStandbyArgs
  | .drawCredit => drawCreditArgs
  | .repayCredit => repayCreditArgs
  | .setStandbyReserve => setStandbyReserveArgs
  | .closeStandby => closeStandbyArgs
  | .closeSession => closeSessionArgs
  | .migrateV2ToV3 | .migrateV3ToV4 | .migrateV4ToV5 | .migrateV5ToV6
  | .migrateLegacyToV6 | .settleLockedVoucher | .seizeCollateral => empty

/-- A function of the program with its arguments. -/
abbrev Request := Sigma Args

def request : Format Request := tagged Entrypoint.tags args

/-- What the entry point makes of instruction data. -/
def dispatch (data : Bytes) : Option Request :=
  (request.decode data).map Prod.fst

/-- Exactly the strings that begin with the encoding of a request are understood
as the request. -/
theorem dispatch_eq_some_iff {data : Bytes} {message : Request} :
    dispatch data = some message ↔
      ∃ front rest, request.encode message = some front ∧ data = front ++ rest := by
  constructor
  · intro hdispatch
    obtain ⟨⟨found, rest⟩, hdecode, rfl⟩ := Option.map_eq_some_iff.mp hdispatch
    obtain ⟨front, hencode, hdata⟩ := request.decode_eq_some_iff.mp hdecode
    exact ⟨front, rest, hencode, hdata⟩
  · rintro ⟨front, rest, hencode, rfl⟩
    rw [dispatch, request.decode_append hencode, Option.map_some]

/-- A discriminator at the front decides which function is entered. -/
theorem entrypoint_of_dispatch {data : Bytes} {message : Request}
    {entrypoint : Entrypoint} (hdispatch : dispatch data = some message)
    (hfront : entrypoint.discriminator <+: data) : message.1 = entrypoint := by
  obtain ⟨⟨found, rest⟩, hdecode, rfl⟩ := Option.map_eq_some_iff.mp hdispatch
  exact eq_of_tag_at_front hdecode hfront

theorem discriminator_at_front {data : Bytes} {message : Request}
    (hdispatch : dispatch data = some message) :
    message.1.discriminator <+: data := by
  obtain ⟨⟨found, rest⟩, hdecode, rfl⟩ := Option.map_eq_some_iff.mp hdispatch
  exact tag_at_front hdecode

end DexterVault.Entrypoints
