import DexterVault.Core.Framing

/-!
# SHA-256

The hash function of FIPS 180-4 on byte strings.  Words are natural numbers
below `2 ^ 32`; every addition is reduced once, at the end of a round.
-/

namespace DexterVault.Sha256

open DexterVault.Framing

abbrev Word := ℕ

def wordModulus : ℕ := 4294967296

def rotateRight (word : Word) (count : ℕ) : Word :=
  (word >>> count) ||| ((word <<< (32 - count)) % wordModulus)

def smallSigma0 (word : Word) : Word :=
  rotateRight word 7 ^^^ rotateRight word 18 ^^^ (word >>> 3)

def smallSigma1 (word : Word) : Word :=
  rotateRight word 17 ^^^ rotateRight word 19 ^^^ (word >>> 10)

def bigSigma0 (word : Word) : Word :=
  rotateRight word 2 ^^^ rotateRight word 13 ^^^ rotateRight word 22

def bigSigma1 (word : Word) : Word :=
  rotateRight word 6 ^^^ rotateRight word 11 ^^^ rotateRight word 25

def choose (x y z : Word) : Word :=
  (x &&& y) ^^^ ((wordModulus - 1 - x) &&& z)

def majority (x y z : Word) : Word :=
  (x &&& y) ^^^ (x &&& z) ^^^ (y &&& z)

def roundConstants : List Word :=
  [0x428a2f98, 0x71374491, 0xb5c0fbcf, 0xe9b5dba5,
   0x3956c25b, 0x59f111f1, 0x923f82a4, 0xab1c5ed5,
   0xd807aa98, 0x12835b01, 0x243185be, 0x550c7dc3,
   0x72be5d74, 0x80deb1fe, 0x9bdc06a7, 0xc19bf174,
   0xe49b69c1, 0xefbe4786, 0x0fc19dc6, 0x240ca1cc,
   0x2de92c6f, 0x4a7484aa, 0x5cb0a9dc, 0x76f988da,
   0x983e5152, 0xa831c66d, 0xb00327c8, 0xbf597fc7,
   0xc6e00bf3, 0xd5a79147, 0x06ca6351, 0x14292967,
   0x27b70a85, 0x2e1b2138, 0x4d2c6dfc, 0x53380d13,
   0x650a7354, 0x766a0abb, 0x81c2c92e, 0x92722c85,
   0xa2bfe8a1, 0xa81a664b, 0xc24b8b70, 0xc76c51a3,
   0xd192e819, 0xd6990624, 0xf40e3585, 0x106aa070,
   0x19a4c116, 0x1e376c08, 0x2748774c, 0x34b0bcb5,
   0x391c0cb3, 0x4ed8aa4a, 0x5b9cca4f, 0x682e6ff3,
   0x748f82ee, 0x78a5636f, 0x84c87814, 0x8cc70208,
   0x90befffa, 0xa4506ceb, 0xbef9a3f7, 0xc67178f2]

/-- The eight working variables. -/
structure HashState where
  a : Word
  b : Word
  c : Word
  d : Word
  e : Word
  f : Word
  g : Word
  h : Word

def initialState : HashState where
  a := 0x6a09e667
  b := 0xbb67ae85
  c := 0x3c6ef372
  d := 0xa54ff53a
  e := 0x510e527f
  f := 0x9b05688c
  g := 0x1f83d9ab
  h := 0x5be0cd19

/-- The message schedule; the list holds the newest word first. -/
def extendSchedule : ℕ → List Word → List Word
  | 0, words => words
  | rounds + 1, words =>
      extendSchedule rounds
        ((smallSigma1 (words.getD 1 0) + words.getD 6 0 +
            smallSigma0 (words.getD 14 0) + words.getD 15 0) % wordModulus ::
          words)

def schedule (block : List Word) : List Word :=
  (extendSchedule 48 block.reverse).reverse

def round : HashState → Word × Word → HashState
  | ⟨a, b, c, d, e, f, g, h⟩, (constant, word) =>
      let first := h + bigSigma1 e + choose e f g + constant + word
      let second := bigSigma0 a + majority a b c
      ⟨(first + second) % wordModulus, a, b, c, (d + first) % wordModulus, e, f, g⟩

def addStates : HashState → HashState → HashState
  | ⟨a, b, c, d, e, f, g, h⟩, ⟨a', b', c', d', e', f', g', h'⟩ =>
      ⟨(a + a') % wordModulus, (b + b') % wordModulus, (c + c') % wordModulus,
        (d + d') % wordModulus, (e + e') % wordModulus, (f + f') % wordModulus,
        (g + g') % wordModulus, (h + h') % wordModulus⟩

def compress (state : HashState) (block : List Word) : HashState :=
  addStates state ((roundConstants.zip (schedule block)).foldl round state)

/-- `width` bytes of `value`, most significant first. -/
def bigEndian (width value : ℕ) : Bytes := (littleEndian width value).reverse

@[simp]
theorem length_bigEndian (width value : ℕ) :
    (bigEndian width value).length = width := by
  simp [bigEndian]

def wordOfBytes (bytes : Bytes) : Word :=
  bytes.foldl (fun accumulated byte => accumulated * 256 + byte.val) 0

def wordsOfBytes : ℕ → Bytes → List Word
  | 0, _ => []
  | count + 1, bytes =>
      wordOfBytes (bytes.take 4) :: wordsOfBytes count (bytes.drop 4)

def compressBlocks : ℕ → Bytes → HashState → HashState
  | 0, _, state => state
  | count + 1, bytes, state =>
      compressBlocks count (bytes.drop 64)
        (compress state (wordsOfBytes 16 (bytes.take 64)))

/-- A one bit, zeros up to the last eight bytes of a block, and the length in
bits. -/
def pad (message : Bytes) : Bytes :=
  message ++ (128 :: List.replicate ((119 - message.length % 64) % 64) 0) ++
    bigEndian 8 (8 * message.length)

def HashState.toBytes (state : HashState) : Bytes :=
  bigEndian 4 state.a ++ bigEndian 4 state.b ++ bigEndian 4 state.c ++
    bigEndian 4 state.d ++ bigEndian 4 state.e ++ bigEndian 4 state.f ++
    bigEndian 4 state.g ++ bigEndian 4 state.h

@[simp]
theorem HashState.length_toBytes (state : HashState) :
    state.toBytes.length = 32 := by
  simp [HashState.toBytes]

def digest (message : Bytes) : FixedBytes 32 :=
  let padded := pad message
  ⟨(compressBlocks (padded.length / 64) padded initialState).toBytes,
    HashState.length_toBytes _⟩

/-- The FIPS 180-4 test vector for the one-block message "abc". -/
example : (digest [97, 98, 99]).toList =
    [186, 120, 22, 191, 143, 1, 207, 234, 65, 65, 64, 222, 93, 174, 34, 35,
     176, 3, 97, 163, 150, 23, 122, 156, 180, 16, 255, 97, 242, 0, 21, 173] := by
  decide +kernel

end DexterVault.Sha256
