import DexterVault.Instructions.Claim
import DexterVault.Instructions.Credit
import DexterVault.Instructions.Session
import DexterVault.Instructions.Withdrawal

/-!
# The messages a passkey signs

Every passkey-gated instruction concatenates a tag and the fields it wants
endorsed, without length prefixes.  All fields have a fixed width, so a message
has the length of its kind; no two kinds share a length, and within a kind the
fields can be read back one after the other.
-/

namespace DexterVault.Operations

open DexterVault.Machine
open DexterVault.Framing
open DexterVault.Accounts
open DexterVault.Webauthn
open DexterVault.Setup
open DexterVault.Withdrawal
open DexterVault.Session
open DexterVault.Claim
open DexterVault.Credit

/-- An operation with the fields that its message encodes. -/
inductive Operation
  | setSwig (swigAddress : Pubkey)
  | requestWithdrawal (amount : U64) (destination : Pubkey) (signedAt : I64)
  | finalizeWithdrawal (amount : U64) (destination : Pubkey)
  | forceRelease (swigAddress : Pubkey)
  | rotatePasskey (newPasskeyPubkey : PasskeyPubkey)
  | siwxLogin (challenge : FixedBytes 32)
  | recoverAbandonedLock (vault claim : Pubkey)
  | openStandby (vault financierSwig : Pubkey) (cap : U64)
  | closeStandby (vault backer : Pubkey)
  | register (program vault : Pubkey) (sessionPubkey : FixedBytes 32)
      (maxAmount : U64) (expiresAt : I64) (allowedCounterparty : Pubkey)
      (nonce : U32) (maxRevolvingCapacity : U64)
  | revoke (program vault : Pubkey) (sessionPubkey : FixedBytes 32)
  deriving DecidableEq

inductive Kind
  | setSwig
  | requestWithdrawal
  | finalizeWithdrawal
  | forceRelease
  | rotatePasskey
  | siwxLogin
  | recoverAbandonedLock
  | openStandby
  | closeStandby
  | register
  | revoke
  deriving DecidableEq

def Operation.kind : Operation → Kind
  | setSwig .. => .setSwig
  | requestWithdrawal .. => .requestWithdrawal
  | finalizeWithdrawal .. => .finalizeWithdrawal
  | forceRelease .. => .forceRelease
  | rotatePasskey .. => .rotatePasskey
  | siwxLogin .. => .siwxLogin
  | recoverAbandonedLock .. => .recoverAbandonedLock
  | openStandby .. => .openStandby
  | closeStandby .. => .closeStandby
  | register .. => .register
  | revoke .. => .revoke

/-- No message encodes the assertion that carries it. -/
def unasserted : Assertion := ⟨[], []⟩

/-- The bytes that the handler of the operation builds. -/
def Operation.message : Operation → Bytes
  | setSwig swigAddress => setSwigMessage swigAddress
  | requestWithdrawal amount destination signedAt =>
      requestWithdrawalMessage
        { unasserted with
          amount := amount
          destination := destination
          signedAt := signedAt }
  | finalizeWithdrawal amount destination =>
      finalizeWithdrawalMessage ⟨amount, destination, I64.saturate 0⟩
  | forceRelease swigAddress => forceReleaseMessage swigAddress
  | rotatePasskey newPasskeyPubkey => rotatePasskeyMessage newPasskeyPubkey
  | siwxLogin challenge => provePasskeyMessage challenge
  | recoverAbandonedLock vault claim => recoverAbandonedLockMessage vault claim
  | openStandby vault financierSwig cap =>
      openStandbyMessage vault financierSwig cap
  | closeStandby vault backer => closeStandbyMessage vault backer
  | register program vault sessionPubkey maxAmount expiresAt
      allowedCounterparty nonce maxRevolvingCapacity =>
      buildRegistrationMessage program vault
        { unasserted with
          sessionPubkey := sessionPubkey
          maxAmount := maxAmount
          expiresAt := expiresAt
          allowedCounterparty := allowedCounterparty
          nonce := nonce
          maxRevolvingCapacity := maxRevolvingCapacity }
  | revoke program vault sessionPubkey =>
      buildRevocationMessage program vault sessionPubkey

/-! ## Lengths -/

/-- The length of every message of a kind. -/
def Kind.length : Kind → ℕ
  | setSwig => 40
  | siwxLogin => 42
  | forceRelease => 45
  | rotatePasskey => 47
  | finalizeWithdrawal => 59
  | requestWithdrawal => 66
  | closeStandby => 77
  | openStandby => 84
  | recoverAbandonedLock => 86
  | revoke => 128
  | register => 188

theorem Kind.length_injective : Function.Injective Kind.length := by
  intro left right heq
  cases left <;> cases right <;> first | rfl | cases heq

@[simp]
theorem length_ascii (text : String) :
    (ascii text).length = text.toList.length := by
  rw [ascii, List.length_map]

theorem Operation.length_message (operation : Operation) :
    operation.message.length = operation.kind.length := by
  cases operation <;>
    simp [message, kind, Kind.length, setSwigMessage, requestWithdrawalMessage,
      finalizeWithdrawalMessage, forceReleaseMessage, rotatePasskeyMessage,
      provePasskeyMessage, recoverAbandonedLockMessage, openStandbyMessage,
      closeStandbyMessage, buildRegistrationMessage, buildRevocationMessage,
      registerDomain, revokeDomain]

theorem Operation.kind_eq_of_message {left right : Operation}
    (heq : left.message = right.message) : left.kind = right.kind := by
  apply Kind.length_injective
  calc left.kind.length
      = left.message.length := left.length_message.symm
    _ = right.message.length := congrArg List.length heq
    _ = right.kind.length := right.length_message

/-! ## Fields -/

theorem setSwigMessage_injective : Function.Injective setSwigMessage :=
  fun _ _ heq => FixedBytes.toList_injective (List.append_cancel_left heq)

theorem forceReleaseMessage_injective : Function.Injective forceReleaseMessage :=
  fun _ _ heq => FixedBytes.toList_injective (List.append_cancel_left heq)

theorem rotatePasskeyMessage_injective :
    Function.Injective rotatePasskeyMessage :=
  fun _ _ heq => FixedBytes.toList_injective (List.append_cancel_left heq)

theorem provePasskeyMessage_injective : Function.Injective provePasskeyMessage :=
  fun _ _ heq => FixedBytes.toList_injective (List.append_cancel_left heq)

theorem requestWithdrawalMessage_inj {left right : RequestWithdrawalArgs}
    (heq : requestWithdrawalMessage left = requestWithdrawalMessage right) :
    left.amount = right.amount ∧ left.destination = right.destination ∧
      left.signedAt = right.signedAt := by
  simp only [requestWithdrawalMessage, List.append_assoc] at heq
  have hfields := List.append_cancel_left heq
  obtain ⟨hamount, hrest⟩ := List.append_inj hfields (by simp)
  obtain ⟨hdestination, hsignedAt⟩ := List.append_inj hrest (by simp)
  exact ⟨encodeU64_injective hamount, FixedBytes.toList_injective hdestination,
    encodeI64_injective hsignedAt⟩

theorem finalizeWithdrawalMessage_inj {left right : PendingWithdrawal}
    (heq : finalizeWithdrawalMessage left = finalizeWithdrawalMessage right) :
    left.amount = right.amount ∧ left.destination = right.destination := by
  simp only [finalizeWithdrawalMessage, List.append_assoc] at heq
  have hfields := List.append_cancel_left heq
  obtain ⟨hamount, hdestination⟩ := List.append_inj hfields (by simp)
  exact ⟨encodeU64_injective hamount, FixedBytes.toList_injective hdestination⟩

/-- Two fixed-length fields behind a common front. -/
theorem pair_inj {front : Bytes} {length rest : ℕ}
    {left right : FixedBytes length} {leftRest rightRest : FixedBytes rest}
    (heq : front ++ left.toList ++ leftRest.toList =
      front ++ right.toList ++ rightRest.toList) :
    left = right ∧ leftRest = rightRest := by
  simp only [List.append_assoc] at heq
  obtain ⟨hleft, hrest⟩ :=
    List.append_inj (List.append_cancel_left heq) (by simp)
  exact ⟨FixedBytes.toList_injective hleft, FixedBytes.toList_injective hrest⟩

theorem openStandbyMessage_inj {leftVault rightVault leftSwig rightSwig : Pubkey}
    {leftCap rightCap : U64}
    (heq : openStandbyMessage leftVault leftSwig leftCap =
      openStandbyMessage rightVault rightSwig rightCap) :
    leftVault = rightVault ∧ leftSwig = rightSwig ∧ leftCap = rightCap := by
  obtain ⟨hkeys, hcap⟩ := List.append_inj heq (by simp)
  obtain ⟨hvault, hswig⟩ := pair_inj hkeys
  exact ⟨hvault, hswig, encodeU64_injective hcap⟩

theorem buildRevocationMessage_inj
    {leftProgram rightProgram leftVault rightVault : Pubkey}
    {leftKey rightKey : FixedBytes 32}
    (heq : buildRevocationMessage leftProgram leftVault leftKey =
      buildRevocationMessage rightProgram rightVault rightKey) :
    leftProgram = rightProgram ∧ leftVault = rightVault ∧
      leftKey = rightKey := by
  obtain ⟨hkeys, hsession⟩ := List.append_inj heq (by simp)
  obtain ⟨hprogram, hvault⟩ := pair_inj hkeys
  exact ⟨hprogram, hvault, FixedBytes.toList_injective hsession⟩

/-- The scope of a registration, behind a common front. -/
theorem buildRegistrationMessage_inj
    {leftProgram rightProgram leftVault rightVault : Pubkey}
    {left right : RegisterSessionKeyArgs}
    (heq : buildRegistrationMessage leftProgram leftVault left =
      buildRegistrationMessage rightProgram rightVault right) :
    leftProgram = rightProgram ∧ leftVault = rightVault ∧
      left.registration = right.registration := by
  obtain ⟨heq, hcapacity⟩ := List.append_inj heq (by simp)
  obtain ⟨heq, hnonce⟩ := List.append_inj heq (by simp)
  obtain ⟨heq, hcounterparty⟩ := List.append_inj heq (by simp)
  obtain ⟨heq, hexpires⟩ := List.append_inj heq (by simp)
  obtain ⟨heq, hmax⟩ := List.append_inj heq (by simp)
  obtain ⟨heq, hsession⟩ := List.append_inj heq (by simp)
  obtain ⟨hprogram, hvault⟩ := pair_inj heq
  refine ⟨hprogram, hvault, ?_⟩
  rw [RegisterSessionKeyArgs.registration, RegisterSessionKeyArgs.registration,
    FixedBytes.toList_injective hsession, encodeU64_injective hmax,
    encodeI64_injective hexpires, FixedBytes.toList_injective hcounterparty,
    encodeU32_injective hnonce, encodeU64_injective hcapacity]

/-- Equal messages were built by the same kind of instruction from the same
fields: the kinds by their lengths, the fields one kind at a time. -/
theorem Operation.message_injective : Function.Injective Operation.message := by
  intro left right heq
  have hkind := kind_eq_of_message heq
  cases left <;> cases right <;> cases hkind
  case setSwig => exact congrArg setSwig (setSwigMessage_injective heq)
  case requestWithdrawal =>
    obtain ⟨hamount, hdestination, hsignedAt⟩ :=
      requestWithdrawalMessage_inj heq
    exact requestWithdrawal.injEq .. ▸ ⟨hamount, hdestination, hsignedAt⟩
  case finalizeWithdrawal =>
    obtain ⟨hamount, hdestination⟩ := finalizeWithdrawalMessage_inj heq
    exact finalizeWithdrawal.injEq .. ▸ ⟨hamount, hdestination⟩
  case forceRelease =>
    exact congrArg forceRelease (forceReleaseMessage_injective heq)
  case rotatePasskey =>
    exact congrArg rotatePasskey (rotatePasskeyMessage_injective heq)
  case siwxLogin => exact congrArg siwxLogin (provePasskeyMessage_injective heq)
  case recoverAbandonedLock =>
    exact recoverAbandonedLock.injEq .. ▸ pair_inj heq
  case openStandby => exact openStandby.injEq .. ▸ openStandbyMessage_inj heq
  case closeStandby => exact closeStandby.injEq .. ▸ pair_inj heq
  case register =>
    obtain ⟨hprogram, hvault, hscope⟩ := buildRegistrationMessage_inj heq
    rw [RegisterSessionKeyArgs.registration, RegisterSessionKeyArgs.registration,
      SessionRegistration.mk.injEq] at hscope
    obtain ⟨hsession, hmax, hexpires, hcounterparty, hnonce, -, -, hcapacity,
      -⟩ := hscope
    exact register.injEq .. ▸ ⟨hprogram, hvault, hsession, hmax, hexpires,
      hcounterparty, hnonce, hcapacity⟩
  case revoke => exact revoke.injEq .. ▸ buildRevocationMessage_inj heq

end DexterVault.Operations
