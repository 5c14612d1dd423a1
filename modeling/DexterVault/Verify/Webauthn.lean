import DexterVault.Verify.Introspection

/-!
# Passkey verification

A passkey signs `authenticatorData || sha256(clientDataJSON)`, and the
`challenge` member of `clientDataJSON` carries the hash of the operation
message.  The verifier checks the first through the precompile and the second
with a scanner for the member and a small base64url decoder.
-/

namespace DexterVault.Webauthn

open DexterVault.Machine
open DexterVault.Framing
open DexterVault.Accounts
open DexterVault.Execution
open DexterVault.Introspection

def authDataMinLen : ℕ := 37

/-- The value of one base64url symbol. -/
def base64urlValue (byte : Byte) : Option ℕ :=
  if 65 ≤ byte.val ∧ byte.val ≤ 90 then some (byte.val - 65)
  else if 97 ≤ byte.val ∧ byte.val ≤ 122 then some (byte.val - 97 + 26)
  else if 48 ≤ byte.val ∧ byte.val ≤ 57 then some (byte.val - 48 + 52)
  else if byte.val = 45 then some 62
  else if byte.val = 95 then some 63
  else none

/-- The decoder loop: `buffer` is a `u32` whose high bits fall out on the left,
`bits` counts the bits not yet written. -/
def base64urlDecodeFrom (buffer bits : ℕ) : Bytes → Result Bytes
  | [] => .ok []
  | byte :: rest =>
      if byte.val = 61 then .ok [] else
      match base64urlValue byte with
      | none => .error VaultError.passkeyVerificationFailed
      | some value =>
          let buffer := ((buffer <<< 6) % 2 ^ 32) ||| value
          if 8 ≤ bits + 6 then do
            let decoded ← base64urlDecodeFrom buffer (bits + 6 - 8) rest
            return Fin.ofNat 256 (buffer >>> (bits + 6 - 8)) :: decoded
          else
            base64urlDecodeFrom buffer (bits + 6) rest

def base64urlDecode (input : Bytes) : Result Bytes :=
  base64urlDecodeFrom 0 0 input

/-- The bytes `"challenge":"`. -/
def challengeKey : Bytes := ascii "\"challenge\":\""

def quote : Byte := 34

/-- What follows the first occurrence of `key`. -/
def afterKey (key : Bytes) : Bytes → Option Bytes
  | [] => none
  | byte :: rest =>
      if (byte :: rest).length < key.length then none
      else if (byte :: rest).take key.length = key then
        some ((byte :: rest).drop key.length)
      else afterKey key rest

def extractChallengeFromClientData (clientDataJson : Bytes) : Result Bytes := do
  let rest ← okOr (afterKey challengeKey clientDataJson)
    VaultError.passkeyVerificationFailed
  require (quote ∈ rest) VaultError.passkeyVerificationFailed
  base64urlDecode (rest.takeWhile (· ≠ quote))

/-- `authenticatorData || sha256(clientDataJSON)`, the bytes a passkey signs. -/
def signedMessage (runtime : Runtime)
    (clientDataJson authenticatorData : Bytes) : Bytes :=
  authenticatorData ++ (runtime.sha256 clientDataJson).toList

def verifyPasskeySigned (runtime : Runtime) (context : Context)
    (expectedPubkey : PasskeyPubkey)
    (clientDataJson authenticatorData expectedOperationMessage : Bytes) :
    Result Unit := do
  require (authDataMinLen ≤ authenticatorData.length)
    VaultError.passkeyVerificationFailed
  introspectSimd0075 context expectedPubkey
    (signedMessage runtime clientDataJson authenticatorData)
  let challengeBytes ← extractChallengeFromClientData clientDataJson
  require
    (challengeBytes = (runtime.sha256 expectedOperationMessage).toList)
    VaultError.passkeyVerificationFailed

/-- The errors of a failed assertion. -/
def IsAssertionError (error : ProgramError) : Prop :=
  error = .vault .passkeyVerificationFailed ∨
    error = .runtime .instructionIndexOutOfRange

theorem raises_base64urlDecodeFrom (buffer bits : ℕ) (input : Bytes) :
    Raises (base64urlDecodeFrom buffer bits input) IsAssertionError := by
  induction input generalizing buffer bits with
  | nil => simp [base64urlDecodeFrom, Raises]
  | cons byte rest ih =>
      unfold base64urlDecodeFrom
      split
      · simp [Raises]
      · split
        · simp [Raises, IsAssertionError]
        · dsimp only
          split
          · exact (ih _ _).bind fun decoded _ => raises_pure _
          · exact ih _ _

theorem raises_verifyPasskeySigned (runtime : Runtime) (context : Context)
    (expectedPubkey : PasskeyPubkey)
    (clientDataJson authenticatorData expectedOperationMessage : Bytes) :
    Raises (verifyPasskeySigned runtime context expectedPubkey clientDataJson
      authenticatorData expectedOperationMessage) IsAssertionError := by
  have hfailure : IsAssertionError (.vault .passkeyVerificationFailed) := .inl rfl
  have hextract : Raises (extractChallengeFromClientData clientDataJson)
      IsAssertionError := by
    refine Raises.bind (raises_okOr_iff.mpr fun _ => hfailure) fun rest _ => ?_
    refine Raises.bind (raises_require_iff.mpr (.inr hfailure)) fun _ _ => ?_
    exact raises_base64urlDecodeFrom _ _ _
  refine Raises.bind (raises_require_iff.mpr (.inr hfailure)) fun _ _ => ?_
  refine Raises.bind (raises_introspectPrecompile _ _ _ _ _) fun _ _ => ?_
  refine Raises.bind hextract fun _ _ => ?_
  exact raises_require_iff.mpr (.inr hfailure)

/-- The assertion fields that a passkey-gated instruction carries. -/
structure Assertion where
  clientDataJson : Bytes
  authenticatorData : Bytes
  deriving DecidableEq

/-- An accepted assertion: the challenge is the hash of the operation message
and the preceding precompile was read as carrying the passkey's signature. -/
theorem verifyPasskeySigned_ok {runtime : Runtime} {context : Context}
    {expectedPubkey : PasskeyPubkey}
    {clientDataJson authenticatorData expectedOperationMessage : Bytes}
    (hok : verifyPasskeySigned runtime context expectedPubkey clientDataJson
      authenticatorData expectedOperationMessage = .ok ()) :
    extractChallengeFromClientData clientDataJson =
        .ok (runtime.sha256 expectedOperationMessage).toList ∧
      ∃ previous, Introspected secp256r1VerifyProgramId context expectedPubkey
        (signedMessage runtime clientDataJson authenticatorData) previous := by
  simp only [verifyPasskeySigned, bind_eq_ok_iff, require_eq_ok_iff] at hok
  obtain ⟨_, _, _, hintrospect, _, hchallenge, rfl⟩ := hok
  exact ⟨hchallenge, introspectPrecompile_ok hintrospect⟩

end DexterVault.Webauthn
