import DexterVault.State.Execution

/-!
# Introspection of the signature precompiles

Both verifiers of `verify/` read the preceding instruction of the transaction,
require it to be a signature precompile and compare the public key and the
message at the offsets of its first entry with the expected ones.  The second
half of the file states what the precompile itself checks: it resolves every
slice through the instruction-index field of the entry, which may name another
instruction of the transaction.
-/

namespace DexterVault.Introspection

open DexterVault.Machine
open DexterVault.Framing
open DexterVault.Accounts
open DexterVault.Execution

def signatureSerializedSize : ℕ := 64
def signatureOffsetsSerializedSize : ℕ := 14
def dataStart : ℕ := 2

/-- The index value by which an entry names the precompile instruction
itself. -/
def ownInstruction : ℕ := 65535

def slice (data : Bytes) (offset length : ℕ) : Bytes :=
  (data.drop offset).take length

/-- `u16::from_le_bytes` of the two bytes at `offset`. -/
def readU16 (data : Bytes) (offset : ℕ) : ℕ :=
  (data.getD offset 0).val + 256 * (data.getD (offset + 1) 0).val

structure SignatureOffsets where
  signatureOffset : ℕ
  signatureInstructionIndex : ℕ
  publicKeyOffset : ℕ
  publicKeyInstructionIndex : ℕ
  messageDataOffset : ℕ
  messageDataSize : ℕ
  messageInstructionIndex : ℕ
  deriving DecidableEq

def readOffsets (data : Bytes) (start : ℕ) : SignatureOffsets where
  signatureOffset := readU16 data start
  signatureInstructionIndex := readU16 data (start + 2)
  publicKeyOffset := readU16 data (start + 4)
  publicKeyInstructionIndex := readU16 data (start + 6)
  messageDataOffset := readU16 data (start + 8)
  messageDataSize := readU16 data (start + 10)
  messageInstructionIndex := readU16 data (start + 12)

def numSignatures (data : Bytes) : ℕ := (data.getD 0 0).val

def entryOffsets (data : Bytes) (entry : ℕ) : SignatureOffsets :=
  readOffsets data (dataStart + signatureOffsetsSerializedSize * entry)

/-! ## The program's reading -/

/-- The common body of `introspect_simd_0075` and `verify_session_signed`. -/
def introspectPrecompile {pubkeyLength : ℕ} (precompile : Pubkey)
    (failure : VaultError) (context : Context)
    (expectedPubkey : FixedBytes pubkeyLength) (expectedMessage : Bytes) :
    Result Unit := do
  require (0 < context.currentIndex) failure
  let previous ← okOr context.instructions[context.currentIndex - 1]?
    RuntimeError.instructionIndexOutOfRange
  require (previous.programId = precompile) failure
  let data := previous.data
  require (dataStart + signatureOffsetsSerializedSize ≤ data.length) failure
  require (1 ≤ numSignatures data) failure
  let offsets := readOffsets data dataStart
  require
    (offsets.signatureInstructionIndex = offsets.publicKeyInstructionIndex ∧
      offsets.publicKeyInstructionIndex = offsets.messageInstructionIndex)
    failure
  require (offsets.publicKeyOffset + pubkeyLength ≤ data.length) failure
  require (offsets.messageDataOffset + offsets.messageDataSize ≤ data.length)
    failure
  require
    (slice data offsets.publicKeyOffset pubkeyLength = expectedPubkey.toList)
    failure
  require
    (slice data offsets.messageDataOffset offsets.messageDataSize =
      expectedMessage)
    failure

def introspectSimd0075 (context : Context) (expectedPubkey : PasskeyPubkey)
    (expectedMessage : Bytes) : Result Unit :=
  introspectPrecompile secp256r1VerifyProgramId .passkeyVerificationFailed
    context expectedPubkey expectedMessage

def verifySessionSigned (context : Context) (expectedPubkey : FixedBytes 32)
    (expectedMessage : Bytes) : Result Unit :=
  introspectPrecompile ed25519VerifyProgramId .invalidVoucherSignature
    context expectedPubkey expectedMessage

/-- What an accepted introspection has read out of the preceding instruction. -/
structure Introspected {pubkeyLength : ℕ} (precompile : Pubkey)
    (context : Context) (expectedPubkey : FixedBytes pubkeyLength)
    (expectedMessage : Bytes) (previous : Instruction) : Prop where
  isPrevious : context.instructions[context.currentIndex - 1]? = some previous
  isPrecompile : previous.programId = precompile
  hasEntry : 1 ≤ numSignatures previous.data
  sameIndex :
    (entryOffsets previous.data 0).signatureInstructionIndex =
        (entryOffsets previous.data 0).publicKeyInstructionIndex ∧
      (entryOffsets previous.data 0).publicKeyInstructionIndex =
        (entryOffsets previous.data 0).messageInstructionIndex
  pubkeyBound :
    (entryOffsets previous.data 0).publicKeyOffset + pubkeyLength ≤
      previous.data.length
  messageBound :
    (entryOffsets previous.data 0).messageDataOffset +
        (entryOffsets previous.data 0).messageDataSize ≤ previous.data.length
  pubkey :
    slice previous.data (entryOffsets previous.data 0).publicKeyOffset
      pubkeyLength = expectedPubkey.toList
  message :
    slice previous.data (entryOffsets previous.data 0).messageDataOffset
      (entryOffsets previous.data 0).messageDataSize = expectedMessage

theorem introspectPrecompile_ok {pubkeyLength : ℕ} {precompile : Pubkey}
    {failure : VaultError} {context : Context}
    {expectedPubkey : FixedBytes pubkeyLength} {expectedMessage : Bytes}
    (hok : introspectPrecompile precompile failure context expectedPubkey
      expectedMessage = .ok ()) :
    ∃ previous, Introspected precompile context expectedPubkey expectedMessage
      previous := by
  simp only [introspectPrecompile, bind_eq_ok_iff, require_eq_ok_iff,
    okOr_eq_ok_iff] at hok
  obtain ⟨_, _, previous, hprevious, _, hprecompile, _, _, _, hentry, _, hindex,
    _, hpubkeyBound, _, hmessageBound, _, hpubkey, hmessage⟩ := hok
  exact ⟨previous, hprevious, hprecompile, hentry, hindex, hpubkeyBound,
    hmessageBound, hpubkey, hmessage⟩

/-- Introspection fails with the verifier's own error, or because the index
lies outside the transaction. -/
theorem raises_introspectPrecompile {pubkeyLength : ℕ} (precompile : Pubkey)
    (failure : VaultError) (context : Context)
    (expectedPubkey : FixedBytes pubkeyLength) (expectedMessage : Bytes) :
    Raises (introspectPrecompile precompile failure context expectedPubkey
        expectedMessage)
      fun error => error = .vault failure ∨
        error = .runtime .instructionIndexOutOfRange := by
  simp [introspectPrecompile, raises_bind_iff]

/-! ## The precompile's reading -/

/-- A signature precompile: its program id, the length of its public keys, and
the signature scheme it implements. -/
structure Precompile where
  programId : Pubkey
  pubkeyLength : ℕ
  verifies : (pubkey message signature : Bytes) → Prop

/-- The instruction an index field names. -/
def namedInstruction (instructions : List Instruction) (own index : ℕ) :
    Option Instruction :=
  if index = ownInstruction then instructions[own]? else instructions[index]?

/-- The slice an entry selects, out of the instruction its index field names. -/
def resolveSlice (instructions : List Instruction)
    (own index offset length : ℕ) : Option Bytes := do
  let instruction ← namedInstruction instructions own index
  if offset + length ≤ instruction.data.length then
    some (slice instruction.data offset length)
  else
    none

namespace Precompile

variable (precompile : Precompile)

def resolvePubkey (instructions : List Instruction) (own : ℕ)
    (offsets : SignatureOffsets) : Option Bytes :=
  resolveSlice instructions own offsets.publicKeyInstructionIndex
    offsets.publicKeyOffset precompile.pubkeyLength

end Precompile

def resolveMessage (instructions : List Instruction) (own : ℕ)
    (offsets : SignatureOffsets) : Option Bytes :=
  resolveSlice instructions own offsets.messageInstructionIndex
    offsets.messageDataOffset offsets.messageDataSize

def resolveSignature (instructions : List Instruction) (own : ℕ)
    (offsets : SignatureOffsets) : Option Bytes :=
  resolveSlice instructions own offsets.signatureInstructionIndex
    offsets.signatureOffset signatureSerializedSize

namespace Precompile

variable (precompile : Precompile)

/-- The entry resolves to this key and this message, and its signature
verifies over them. -/
def EntryVerifies (instructions : List Instruction) (own : ℕ)
    (offsets : SignatureOffsets) (pubkey message : Bytes) : Prop :=
  precompile.resolvePubkey instructions own offsets = some pubkey ∧
    resolveMessage instructions own offsets = some message ∧
    ∃ signature, resolveSignature instructions own offsets = some signature ∧
      precompile.verifies pubkey message signature

/-- The transaction executes only if every entry of every instruction of the
precompile verifies. -/
def Executes (instructions : List Instruction) : Prop :=
  ∀ own instruction, instructions[own]? = some instruction →
    instruction.programId = precompile.programId →
    ∀ entry < numSignatures instruction.data, ∃ pubkey message,
      precompile.EntryVerifies instructions own
        (entryOffsets instruction.data entry) pubkey message

/-- The precompile at index `own` verified a signature of `pubkey` over
`message`. -/
def Verified (instructions : List Instruction) (own : ℕ)
    (pubkey message : Bytes) : Prop :=
  ∃ instruction, instructions[own]? = some instruction ∧
    instruction.programId = precompile.programId ∧
    ∃ entry < numSignatures instruction.data,
      precompile.EntryVerifies instructions own
        (entryOffsets instruction.data entry) pubkey message

/-- Some entry, resolved through its index fields, reads the bytes that the
offsets of the first entry select in the precompile instruction's own data. -/
def ResolvesOwnSlices (instructions : List Instruction) (own : ℕ) : Prop :=
  ∃ instruction, instructions[own]? = some instruction ∧
    ∃ entry < numSignatures instruction.data,
      precompile.resolvePubkey instructions own
          (entryOffsets instruction.data entry) =
        some (slice instruction.data
          (entryOffsets instruction.data 0).publicKeyOffset
          precompile.pubkeyLength) ∧
      resolveMessage instructions own (entryOffsets instruction.data entry) =
        some (slice instruction.data
          (entryOffsets instruction.data 0).messageDataOffset
          (entryOffsets instruction.data 0).messageDataSize)

variable {precompile}

/-- The program's reading agrees with the precompile's exactly when some entry
resolves to the bytes the program compared. -/
theorem verified_iff_resolvesOwnSlices {context : Context}
    {expectedPubkey : FixedBytes precompile.pubkeyLength}
    {expectedMessage : Bytes} {previous : Instruction}
    (hread : Introspected precompile.programId context expectedPubkey
      expectedMessage previous)
    (hexecutes : precompile.Executes context.instructions) :
    precompile.Verified context.instructions (context.currentIndex - 1)
        expectedPubkey.toList expectedMessage ↔
      precompile.ResolvesOwnSlices context.instructions
        (context.currentIndex - 1) := by
  constructor
  · rintro ⟨instruction, hinstruction, _, entry, hentry, hpubkey, hmessage, _⟩
    obtain rfl : previous = instruction :=
      Option.some.inj (hread.isPrevious.symm.trans hinstruction)
    refine ⟨previous, hinstruction, entry, hentry, ?_, ?_⟩
    · rw [hpubkey, hread.pubkey]
    · rw [hmessage, hread.message]
  · rintro ⟨instruction, hinstruction, entry, hentry, hpubkey, hmessage⟩
    obtain rfl : previous = instruction :=
      Option.some.inj (hread.isPrevious.symm.trans hinstruction)
    rw [hread.pubkey] at hpubkey
    rw [hread.message] at hmessage
    obtain ⟨pubkey, message, hpubkey', hmessage', hsignature⟩ :=
      hexecutes _ previous hinstruction hread.isPrecompile entry hentry
    obtain rfl : expectedPubkey.toList = pubkey :=
      Option.some.inj (hpubkey.symm.trans hpubkey')
    obtain rfl : expectedMessage = message :=
      Option.some.inj (hmessage.symm.trans hmessage')
    exact ⟨previous, hinstruction, hread.isPrecompile, entry, hentry, hpubkey,
      hmessage, hsignature⟩

/-- An entry whose index fields name the precompile instruction itself is read
by the precompile as the program reads it. -/
theorem resolvesOwnSlices_of_own {context : Context}
    {expectedPubkey : FixedBytes precompile.pubkeyLength}
    {expectedMessage : Bytes} {previous : Instruction}
    (hread : Introspected precompile.programId context expectedPubkey
      expectedMessage previous)
    (hown : (entryOffsets previous.data 0).publicKeyInstructionIndex =
        ownInstruction ∨
      (entryOffsets previous.data 0).publicKeyInstructionIndex =
        context.currentIndex - 1) :
    precompile.ResolvesOwnSlices context.instructions
      (context.currentIndex - 1) := by
  have hnamed : namedInstruction context.instructions (context.currentIndex - 1)
      (entryOffsets previous.data 0).publicKeyInstructionIndex =
        some previous := by
    unfold namedInstruction
    rcases hown with hown | hown
    · rw [if_pos hown, hread.isPrevious]
    · rw [hown, hread.isPrevious, ite_self]
  refine ⟨previous, hread.isPrevious, 0, hread.hasEntry, ?_, ?_⟩
  · simp only [resolvePubkey, resolveSlice, hnamed, Option.bind_eq_bind,
      Option.bind_some, if_pos hread.pubkeyBound]
  · simp only [resolveMessage, resolveSlice, ← hread.sameIndex.2, hnamed,
      Option.bind_eq_bind, Option.bind_some, if_pos hread.messageBound]

end Precompile

/-! ## The standard layout -/

def encodeU16 (value : ℕ) : Bytes := littleEndian 2 value

/-- One signature in the layout the client libraries write:
offsets, public key, signature, message, all in the precompile instruction. -/
def signatureInstruction (precompile : Pubkey)
    (pubkey signature message : Bytes) : Instruction where
  programId := precompile
  data :=
    [1, 0] ++
    encodeU16 (16 + pubkey.length) ++ encodeU16 ownInstruction ++
    encodeU16 16 ++ encodeU16 ownInstruction ++
    encodeU16 (16 + pubkey.length + signature.length) ++
    encodeU16 message.length ++ encodeU16 ownInstruction ++
    pubkey ++ signature ++ message

/-- An instruction of the vault program right after one that carries a
signature. -/
def signedContext (precompile : Pubkey) (pubkey signature message : Bytes)
    (signers : List Pubkey) (unixTimestamp : I64) : Context where
  instructions :=
    [signatureInstruction precompile pubkey signature message, ⟨programId, []⟩]
  currentIndex := 1
  signers := signers
  unixTimestamp := unixTimestamp

section StandardLayout

variable {precompile : Pubkey} {pubkey signature message : Bytes}

theorem readOffsets_signatureInstruction
    (hpubkey : 16 + pubkey.length + signature.length < 65536)
    (hmessage : message.length < 65536) :
    readOffsets (signatureInstruction precompile pubkey signature message).data
        dataStart =
      { signatureOffset := 16 + pubkey.length
        signatureInstructionIndex := ownInstruction
        publicKeyOffset := 16
        publicKeyInstructionIndex := ownInstruction
        messageDataOffset := 16 + pubkey.length + signature.length
        messageDataSize := message.length
        messageInstructionIndex := ownInstruction } := by
  have hread : ∀ value < 65536, value % 256 + 256 * (value / 256 % 256) = value :=
    fun value hvalue => by omega
  simp only [readOffsets, readU16, signatureInstruction, encodeU16, littleEndian,
    dataStart, List.cons_append, List.nil_append, List.getD_cons_succ,
    List.getD_cons_zero, hread _ hpubkey, hread _ hmessage,
    hread _ (show 16 + pubkey.length < 65536 by omega), ownInstruction]

/-- A signature in the standard layout passes introspection. -/
theorem introspectPrecompile_signedContext {pubkeyLength : ℕ}
    {failure : VaultError} {expectedPubkey : FixedBytes pubkeyLength}
    {signers : List Pubkey} {unixTimestamp : I64}
    (hpubkey : 16 + pubkeyLength + signature.length < 65536)
    (hmessage : message.length < 65536) :
    introspectPrecompile precompile failure
        (signedContext precompile expectedPubkey.toList signature message
          signers unixTimestamp)
        expectedPubkey message = .ok () := by
  have hlength : expectedPubkey.toList.length = pubkeyLength :=
    expectedPubkey.toList_length
  have hdata : (signatureInstruction precompile expectedPubkey.toList signature
      message).data.length =
        16 + pubkeyLength + signature.length + message.length := by
    simp only [signatureInstruction, encodeU16, List.length_append,
      List.length_cons, List.length_nil, length_littleEndian, hlength]
  have hoffsets : readOffsets (signatureInstruction precompile
      expectedPubkey.toList signature message).data dataStart = _ :=
    readOffsets_signatureInstruction (by rw [hlength]; exact hpubkey) hmessage
  have hpubkeySlice : slice (signatureInstruction precompile
      expectedPubkey.toList signature message).data 16 pubkeyLength =
        expectedPubkey.toList := by
    simp [slice, signatureInstruction, encodeU16, littleEndian, hlength]
  have hmessageSlice : slice (signatureInstruction precompile
      expectedPubkey.toList signature message).data
        (16 + expectedPubkey.toList.length + signature.length) message.length =
          message := by
    have hdrop : 16 + expectedPubkey.toList.length + signature.length =
        expectedPubkey.toList.length + signature.length + 16 := by omega
    rw [slice, hdrop]
    simp only [signatureInstruction, encodeU16, littleEndian, List.cons_append,
      List.nil_append, List.append_assoc, List.drop_succ_cons]
    rw [← List.append_assoc, List.drop_left' (by simp), List.take_length]
  simp only [introspectPrecompile, bind_eq_ok_iff, require_eq_ok_iff,
    okOr_eq_ok_iff]
  refine ⟨(), by simp [signedContext], _, rfl, (), rfl, (), ?_, (), ?_, ?_⟩
  · rw [hdata, dataStart, signatureOffsetsSerializedSize]
    omega
  · simp [numSignatures, signatureInstruction]
  · rw [hoffsets]
    simp only [hdata, hpubkeySlice, hmessageSlice, and_self, exists_const,
      true_and, and_true]
    omega

end StandardLayout

end DexterVault.Introspection
