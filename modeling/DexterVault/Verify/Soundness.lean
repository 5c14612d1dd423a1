import DexterVault.Program.Deployment

/-!
# Soundness of the introspection

A precompile lets a transaction run only if its entries verify, and it finds
their bytes through the instruction-index fields.  The verifiers read the same
offsets in the precompile instruction itself and compare the index fields with
each other only, so what they accept has been signed exactly when the two
readings meet.
-/

namespace DexterVault.Soundness

open DexterVault.Machine
open DexterVault.Framing
open DexterVault.Accounts
open DexterVault.Execution
open DexterVault.Introspection
open DexterVault.Webauthn

/-- The secp256r1 precompile, with the signature scheme as a parameter. -/
def secp256r1 (verifies : (pubkey message signature : Bytes) → Prop) :
    Precompile where
  programId := secp256r1VerifyProgramId
  pubkeyLength := 33
  verifies := verifies

/-- The Ed25519 precompile. -/
def ed25519 (verifies : (pubkey message signature : Bytes) → Prop) :
    Precompile where
  programId := ed25519VerifyProgramId
  pubkeyLength := 32
  verifies := verifies

instance (verifies : (pubkey message signature : Bytes) → Prop)
    [∀ pubkey message signature,
      Decidable (verifies pubkey message signature)]
    (pubkey message signature : Bytes) :
    Decidable ((secp256r1 verifies).verifies pubkey message signature) :=
  inferInstanceAs (Decidable (verifies pubkey message signature))

instance (verifies : (pubkey message signature : Bytes) → Prop)
    [∀ pubkey message signature,
      Decidable (verifies pubkey message signature)]
    (pubkey message signature : Bytes) :
    Decidable ((ed25519 verifies).verifies pubkey message signature) :=
  inferInstanceAs (Decidable (verifies pubkey message signature))

section Verifiers

variable {secpVerifies edVerifies : (pubkey message signature : Bytes) → Prop}
  {runtime : Runtime} {context : Context}

/-- What an accepted passkey assertion is meant to show. -/
def PasskeySigned (secpVerifies : (pubkey message signature : Bytes) → Prop)
    (runtime : Runtime) (context : Context) (expectedPubkey : PasskeyPubkey)
    (clientDataJson authenticatorData expectedOperationMessage : Bytes) :
    Prop :=
  (secp256r1 secpVerifies).Verified context.instructions
      (context.currentIndex - 1) expectedPubkey.toList
      (signedMessage runtime clientDataJson authenticatorData) ∧
    extractChallengeFromClientData clientDataJson =
      .ok (runtime.sha256 expectedOperationMessage).toList

/-- What an accepted voucher signature is meant to show. -/
def SessionSigned (edVerifies : (pubkey message signature : Bytes) → Prop)
    (context : Context) (expectedPubkey : FixedBytes 32)
    (expectedMessage : Bytes) : Prop :=
  (ed25519 edVerifies).Verified context.instructions
    (context.currentIndex - 1) expectedPubkey.toList expectedMessage

theorem passkeySigned_iff
    (hexecutes : (secp256r1 secpVerifies).Executes context.instructions)
    {expectedPubkey : PasskeyPubkey}
    {clientDataJson authenticatorData expectedOperationMessage : Bytes}
    (hok : verifyPasskeySigned runtime context expectedPubkey clientDataJson
      authenticatorData expectedOperationMessage = .ok ()) :
    PasskeySigned secpVerifies runtime context expectedPubkey clientDataJson
        authenticatorData expectedOperationMessage ↔
      (secp256r1 secpVerifies).ResolvesOwnSlices context.instructions
        (context.currentIndex - 1) := by
  obtain ⟨hchallenge, previous, hread⟩ := verifyPasskeySigned_ok hok
  have hverified :=
    Precompile.verified_iff_resolvesOwnSlices hread hexecutes
  constructor
  · exact fun hsigned => hverified.mp hsigned.1
  · exact fun hresolves => ⟨hverified.mpr hresolves, hchallenge⟩

theorem sessionSigned_iff
    (hexecutes : (ed25519 edVerifies).Executes context.instructions)
    {expectedPubkey : FixedBytes 32} {expectedMessage : Bytes}
    (hok : verifySessionSigned context expectedPubkey expectedMessage =
      .ok ()) :
    SessionSigned edVerifies context expectedPubkey expectedMessage ↔
      (ed25519 edVerifies).ResolvesOwnSlices context.instructions
        (context.currentIndex - 1) := by
  obtain ⟨previous, hread⟩ := introspectPrecompile_ok hok
  exact Precompile.verified_iff_resolvesOwnSlices hread hexecutes

/-- In a transaction that the precompiles let through, an accepted assertion
was signed by the passkey and an accepted voucher by the session key exactly
when some entry of the preceding instruction, resolved through its index
fields, reads the bytes that the verifier compared. -/
theorem signatures_verified_iff (runtime : Runtime)
    (hsecp : (secp256r1 secpVerifies).Executes context.instructions)
    (hed : (ed25519 edVerifies).Executes context.instructions) :
    (∀ (expectedPubkey : PasskeyPubkey)
        (clientDataJson authenticatorData expectedOperationMessage : Bytes),
      verifyPasskeySigned runtime context expectedPubkey clientDataJson
        authenticatorData expectedOperationMessage = .ok () →
      (PasskeySigned secpVerifies runtime context expectedPubkey
          clientDataJson authenticatorData expectedOperationMessage ↔
        (secp256r1 secpVerifies).ResolvesOwnSlices context.instructions
          (context.currentIndex - 1))) ∧
    ∀ (expectedPubkey : FixedBytes 32) (expectedMessage : Bytes),
      verifySessionSigned context expectedPubkey expectedMessage = .ok () →
      (SessionSigned edVerifies context expectedPubkey expectedMessage ↔
        (ed25519 edVerifies).ResolvesOwnSlices context.instructions
          (context.currentIndex - 1)) :=
  ⟨fun _ _ _ _ hok => passkeySigned_iff hsecp hok,
    fun _ _ hok => sessionSigned_iff hed hok⟩

/-- The index fields of the first entry name the preceding instruction, which
holds the entry. -/
def NamesItself (context : Context) (previous : Instruction) : Prop :=
  (entryOffsets previous.data 0).publicKeyInstructionIndex = ownInstruction ∨
    (entryOffsets previous.data 0).publicKeyInstructionIndex =
      context.currentIndex - 1

/-- In the layout that the client libraries write, both verifiers are sound. -/
theorem passkeySigned_of_own
    (hexecutes : (secp256r1 secpVerifies).Executes context.instructions)
    (hown : ∀ previous ∈ context.instructions[context.currentIndex - 1]?,
      NamesItself context previous)
    {expectedPubkey : PasskeyPubkey}
    {clientDataJson authenticatorData expectedOperationMessage : Bytes}
    (hok : verifyPasskeySigned runtime context expectedPubkey clientDataJson
      authenticatorData expectedOperationMessage = .ok ()) :
    PasskeySigned secpVerifies runtime context expectedPubkey clientDataJson
      authenticatorData expectedOperationMessage := by
  obtain ⟨-, previous, hread⟩ := verifyPasskeySigned_ok hok
  apply (passkeySigned_iff hexecutes hok).mpr
  exact Precompile.resolvesOwnSlices_of_own hread
    (hown previous hread.isPrevious)

theorem sessionSigned_of_own
    (hexecutes : (ed25519 edVerifies).Executes context.instructions)
    (hown : ∀ previous ∈ context.instructions[context.currentIndex - 1]?,
      NamesItself context previous)
    {expectedPubkey : FixedBytes 32} {expectedMessage : Bytes}
    (hok : verifySessionSigned context expectedPubkey expectedMessage =
      .ok ()) :
    SessionSigned edVerifies context expectedPubkey expectedMessage := by
  obtain ⟨previous, hread⟩ := introspectPrecompile_ok hok
  apply (sessionSigned_iff hexecutes hok).mpr
  exact Precompile.resolvesOwnSlices_of_own hread
    (hown previous hread.isPrevious)

end Verifiers

/-! ## Deciding what a precompile does -/

section Decide

variable {precompile : Precompile}
  [∀ pubkey message signature,
    Decidable (precompile.verifies pubkey message signature)]
  {instructions : List Instruction}

instance (own : ℕ) (offsets : SignatureOffsets) (pubkey message : Bytes) :
    Decidable (precompile.EntryVerifies instructions own offsets pubkey
      message) :=
  inferInstanceAs (Decidable (_ = _ ∧ _ = _ ∧
    ∃ signature ∈ resolveSignature instructions own offsets,
      precompile.verifies pubkey message signature))

omit [∀ pubkey message signature,
    Decidable (precompile.verifies pubkey message signature)] in
/-- The instructions and the entries are finitely many, and an entry determines
its key and its message. -/
theorem executes_iff :
    precompile.Executes instructions ↔
      ∀ own < instructions.length, ∀ instruction ∈ instructions[own]?,
        instruction.programId = precompile.programId →
        ∀ entry < numSignatures instruction.data,
          ∃ pubkey ∈ precompile.resolvePubkey instructions own
              (entryOffsets instruction.data entry),
            ∃ message ∈ resolveMessage instructions own
                (entryOffsets instruction.data entry),
              precompile.EntryVerifies instructions own
                (entryOffsets instruction.data entry) pubkey message := by
  constructor
  · intro hexecutes own _ instruction hinstruction hprogram entry hentry
    obtain ⟨pubkey, message, hverifies⟩ :=
      hexecutes own instruction hinstruction hprogram entry hentry
    exact ⟨pubkey, hverifies.1, message, hverifies.2.1, hverifies⟩
  · intro hbounded own instruction hinstruction hprogram entry hentry
    have hown := (List.getElem?_eq_some_iff.mp hinstruction).1
    obtain ⟨pubkey, -, message, -, hverifies⟩ :=
      hbounded own hown instruction hinstruction hprogram entry hentry
    exact ⟨pubkey, message, hverifies⟩

instance : Decidable (precompile.Executes instructions) :=
  decidable_of_iff _ executes_iff.symm

instance (own : ℕ) : Decidable (precompile.ResolvesOwnSlices instructions own) :=
  inferInstanceAs (Decidable (∃ instruction ∈ instructions[own]?,
    ∃ entry < numSignatures instruction.data, _ ∧ _))

end Decide

/-! ## Signed and unsigned transactions

The signatures below are real ones: of the passkey over its assertion of
`prove`, of the session key over `voucher`, and of two other keys over zeros.
The scheme of an example accepts the listed signatures. -/

section Examples

open Deployment

def signedPasskey : PasskeyPubkey :=
  ⟨[2, 8, 139, 185, 255, 34, 171, 41, 26, 116, 200, 111, 198, 119, 186, 137,
    123, 170, 222, 227, 112, 204, 97, 41, 184, 45, 23, 11, 163, 252, 38, 65, 92], rfl⟩

def passkeySignature : Bytes :=
  [6, 154, 243, 106, 29, 189, 75, 30, 210, 37, 244, 156, 158, 68, 40, 126, 143,
   231, 58, 67, 226, 163, 53, 112, 210, 209, 18, 219, 59, 203, 129, 223, 80, 27,
   194, 201, 148, 48, 201, 253, 175, 14, 117, 8, 12, 124, 112, 221, 102, 24,
   116, 248, 171, 229, 147, 114, 158, 23, 30, 23, 35, 17, 30, 154]

def foreignPasskey : PasskeyPubkey :=
  ⟨[3, 16, 164, 144, 82, 57, 85, 203, 194, 194, 211, 69, 36, 88, 252, 223, 151,
    196, 115, 52, 105, 241, 135, 144, 95, 92, 182, 115, 71, 244, 36, 78, 184], rfl⟩

def foreignPasskeySignature : Bytes :=
  [82, 222, 181, 161, 51, 113, 32, 92, 91, 30, 57, 163, 144, 249, 166, 179, 192,
   35, 117, 24, 62, 32, 40, 191, 86, 232, 159, 223, 147, 59, 71, 71, 68, 186,
   130, 237, 156, 71, 174, 13, 135, 38, 156, 215, 144, 90, 79, 12, 172, 243,
   195, 66, 184, 130, 122, 81, 42, 44, 127, 22, 198, 181, 90, 120]

def signedSession : FixedBytes 32 :=
  ⟨[138, 136, 227, 221, 116, 9, 241, 149, 253, 82, 219, 45, 60, 186, 93, 114,
    202, 103, 9, 191, 29, 148, 18, 27, 243, 116, 136, 1, 180, 15, 111, 92], rfl⟩

def sessionSignature : Bytes :=
  [134, 159, 37, 20, 23, 212, 247, 53, 140, 225, 65, 192, 252, 44, 204, 219,
   203, 5, 220, 161, 107, 237, 234, 247, 30, 210, 222, 88, 164, 1, 121, 29, 52,
   212, 68, 92, 187, 222, 164, 49, 139, 110, 190, 109, 194, 214, 92, 54, 73,
   252, 97, 226, 117, 197, 109, 151, 16, 88, 186, 229, 8, 249, 231, 15]

def foreignSession : FixedBytes 32 :=
  ⟨[129, 57, 119, 14, 168, 125, 23, 95, 86, 163, 84, 102, 195, 76, 126, 204,
    203, 141, 138, 145, 180, 238, 55, 162, 93, 246, 15, 91, 143, 201, 179, 148], rfl⟩

def foreignSessionSignature : Bytes :=
  [251, 5, 23, 25, 53, 195, 142, 160, 148, 125, 207, 160, 105, 222, 139, 52,
   191, 154, 166, 221, 161, 141, 175, 250, 135, 180, 220, 117, 206, 217, 199,
   197, 161, 77, 80, 10, 177, 155, 101, 126, 18, 144, 46, 233, 66, 101, 79, 30,
   75, 246, 149, 163, 161, 136, 88, 66, 72, 6, 89, 184, 178, 84, 205, 10]

def operation : Bytes := ascii "prove"
def voucher : Bytes := ascii "voucher"

/-- The bytes that the passkey signs for the operation. -/
def assertedMessage : Bytes :=
  signedMessage sampleRuntime (assertion operation).clientDataJson
    authenticatorData

def zeros (length : ℕ) : Bytes := List.replicate length 0

/-- A signature scheme that accepts the listed signatures. -/
def listed (signatures : List (Bytes × Bytes × Bytes))
    (pubkey message signature : Bytes) : Prop :=
  (pubkey, message, signature) ∈ signatures

instance (signatures : List (Bytes × Bytes × Bytes))
    (pubkey message signature : Bytes) :
    Decidable (listed signatures pubkey message signature) :=
  inferInstanceAs (Decidable (_ ∈ signatures))

def passkeyTransaction : Context :=
  signedContext secp256r1VerifyProgramId signedPasskey.toList passkeySignature
    assertedMessage [] Deployment.now

def sessionTransaction : Context :=
  signedContext ed25519VerifyProgramId signedSession.toList sessionSignature
    voucher [] Deployment.now

theorem signatures_verified_iff_signed :
    PasskeySigned
        (listed [(signedPasskey.toList, assertedMessage, passkeySignature)])
        sampleRuntime passkeyTransaction signedPasskey
        (assertion operation).clientDataJson authenticatorData operation ∧
      SessionSigned (listed [(signedSession.toList, voucher, sessionSignature)])
        sessionTransaction signedSession voucher := by
  constructor
  · have hverified := (signatures_verified_iff sampleRuntime
      (show (secp256r1 (listed [(signedPasskey.toList, assertedMessage,
        passkeySignature)])).Executes passkeyTransaction.instructions by
          decide +kernel)
      (show (ed25519 (listed [])).Executes passkeyTransaction.instructions by
        decide +kernel)).1
    exact (hverified signedPasskey (assertion operation).clientDataJson
      authenticatorData operation (by decide +kernel)).mpr (by decide +kernel)
  · have hverified := (signatures_verified_iff sampleRuntime
      (show (secp256r1 (listed [])).Executes sessionTransaction.instructions by
        decide +kernel)
      (show (ed25519 (listed [(signedSession.toList, voucher,
        sessionSignature)])).Executes sessionTransaction.instructions by
          decide +kernel)).2
    exact (hverified signedSession voucher (by decide +kernel)).mpr
      (by decide +kernel)

/-- Key, signature and message in the standard places, behind index fields that
name the instruction at `index`. -/
def redirectedData (index : ℕ) (pubkey signature message : Bytes) : Bytes :=
  [1, 0] ++
    encodeU16 (16 + pubkey.length) ++ encodeU16 index ++
    encodeU16 16 ++ encodeU16 index ++
    encodeU16 (16 + pubkey.length + signature.length) ++
    encodeU16 message.length ++ encodeU16 index ++
    pubkey ++ signature ++ message

/-- The index fields name a third instruction, of any program that ignores its
data, with a signature of another key over zeros.  The precompile instruction
itself holds the expected key and message and no signature. -/
def redirectedContext (precompile : Pubkey)
    (pubkey message foreignPubkey foreignSignature : Bytes) : Context where
  instructions :=
    [⟨precompile, redirectedData 2 pubkey (zeros 64) message⟩,
      ⟨programId, []⟩,
      ⟨filled 9, redirectedData 2 foreignPubkey foreignSignature
        (zeros message.length)⟩]
  currentIndex := 1
  signers := []
  unixTimestamp := Deployment.now

def forgedAssertion : Context :=
  redirectedContext secp256r1VerifyProgramId signedPasskey.toList
    assertedMessage foreignPasskey.toList foreignPasskeySignature

def forgedVoucher : Context :=
  redirectedContext ed25519VerifyProgramId signedSession.toList voucher
    foreignSession.toList foreignSessionSignature

/-- The only secp256r1 signature of `forgedAssertion`. -/
def foreignSecp : Bytes → Bytes → Bytes → Prop :=
  listed [(foreignPasskey.toList, zeros 69, foreignPasskeySignature)]

/-- The only Ed25519 signature of `forgedVoucher`. -/
def foreignEd : Bytes → Bytes → Bytes → Prop :=
  listed [(foreignSession.toList, zeros 7, foreignSessionSignature)]

instance (pubkey message signature : Bytes) :
    Decidable (foreignSecp pubkey message signature) :=
  inferInstanceAs (Decidable (listed _ pubkey message signature))

instance (pubkey message signature : Bytes) :
    Decidable (foreignEd pubkey message signature) :=
  inferInstanceAs (Decidable (listed _ pubkey message signature))

/-- The precompiles and the verifiers accept both transactions. -/
theorem forged_accepted :
    (secp256r1 foreignSecp).Executes forgedAssertion.instructions ∧
      verifyPasskeySigned sampleRuntime forgedAssertion signedPasskey
        (assertion operation).clientDataJson authenticatorData operation =
          .ok () ∧
      (ed25519 foreignEd).Executes forgedVoucher.instructions ∧
      verifySessionSigned forgedVoucher signedSession voucher = .ok () := by
  decide +kernel

/-- Both verifiers accept what the expected key has never signed. -/
theorem unsigned_accepted :
    (secp256r1 foreignSecp).Executes forgedAssertion.instructions ∧
      verifyPasskeySigned sampleRuntime forgedAssertion signedPasskey
        (assertion operation).clientDataJson authenticatorData operation =
          .ok () ∧
      ¬ PasskeySigned foreignSecp sampleRuntime forgedAssertion signedPasskey
        (assertion operation).clientDataJson authenticatorData operation ∧
      (ed25519 foreignEd).Executes forgedVoucher.instructions ∧
      verifySessionSigned forgedVoucher signedSession voucher = .ok () ∧
      ¬ SessionSigned foreignEd forgedVoucher signedSession voucher := by
  obtain ⟨hsecp, hpasskey, hed, hsession⟩ := forged_accepted
  refine ⟨hsecp, hpasskey, ?_, hed, hsession, ?_⟩
  · rw [passkeySigned_iff hsecp hpasskey]
    decide +kernel
  · rw [sessionSigned_iff hed hsession]
    decide +kernel

end Examples

end DexterVault.Soundness
