import DexterVault.Core.Machine
import Mathlib.Data.Vector.Basic
import Mathlib.Tactic.Ring

/-!
# Byte strings and their fixed-length frames

Operation messages, account seeds and voucher payloads are concatenations of
fixed-length fields.  The lemmas here recover a field from such a frame: a
little-endian integer determines its value, and equal concatenations whose
first parts have equal length agree part by part.
-/

namespace DexterVault.Framing

open DexterVault.Machine

abbrev Byte := Fin 256
abbrev Bytes := List Byte

/-- Rust's `[u8; length]`. -/
abbrev FixedBytes (length : ℕ) := List.Vector Byte length

namespace FixedBytes

variable {length : ℕ}

def zero : FixedBytes length := List.Vector.replicate length 0

theorem toList_injective :
    Function.Injective (List.Vector.toList : FixedBytes length → Bytes) :=
  fun _ _ heq => Subtype.ext heq

end FixedBytes

/-- The low `width` bytes of `value`, least significant first. -/
def littleEndian : ℕ → ℕ → Bytes
  | 0, _ => []
  | width + 1, value =>
      ⟨value % 256, Nat.mod_lt _ (by omega)⟩ :: littleEndian width (value / 256)

@[simp]
theorem length_littleEndian (width value : ℕ) :
    (littleEndian width value).length = width := by
  induction width generalizing value with
  | zero => rfl
  | succ width ih => simp [littleEndian, ih]

theorem littleEndian_injective {width left right : ℕ}
    (hleft : left < 256 ^ width) (hright : right < 256 ^ width)
    (heq : littleEndian width left = littleEndian width right) :
    left = right := by
  induction width generalizing left right with
  | zero =>
      rw [pow_zero] at hleft hright
      omega
  | succ width ih =>
      simp only [littleEndian, List.cons.injEq, Fin.mk.injEq] at heq
      rw [pow_succ] at hleft hright
      have hquotient : left / 256 = right / 256 :=
        ih (Nat.div_lt_of_lt_mul (by omega)) (Nat.div_lt_of_lt_mul (by omega))
          heq.2
      omega

/-- The value that little-endian bytes spell. -/
def fromLittleEndian : Bytes → ℕ
  | [] => 0
  | digit :: rest => digit.val + 256 * fromLittleEndian rest

theorem fromLittleEndian_lt (bytes : Bytes) :
    fromLittleEndian bytes < 256 ^ bytes.length := by
  induction bytes with
  | nil => exact Nat.one_pos
  | cons digit rest ih =>
      have hdigit := digit.isLt
      rw [fromLittleEndian, List.length_cons, pow_succ]
      omega

theorem littleEndian_fromLittleEndian (bytes : Bytes) :
    littleEndian bytes.length (fromLittleEndian bytes) = bytes := by
  induction bytes with
  | nil => rfl
  | cons digit rest ih =>
      have hlow : (digit.val + 256 * fromLittleEndian rest) % 256 = digit.val := by
        omega
      have hhigh : (digit.val + 256 * fromLittleEndian rest) / 256 =
          fromLittleEndian rest := by omega
      simp only [List.length_cons, littleEndian, fromLittleEndian, hlow, hhigh, ih]

theorem fromLittleEndian_littleEndian {width value : ℕ}
    (hvalue : value < 256 ^ width) :
    fromLittleEndian (littleEndian width value) = value := by
  have hlength : (littleEndian width value).length = width :=
    length_littleEndian width value
  have hlt := fromLittleEndian_lt (littleEndian width value)
  have hbytes := littleEndian_fromLittleEndian (littleEndian width value)
  rw [hlength] at hlt hbytes
  exact littleEndian_injective hlt hvalue hbytes

def encodeU8 (value : U8) : Bytes := [value]
def encodeU32 (value : U32) : Bytes := littleEndian 4 value.val
def encodeU64 (value : U64) : Bytes := littleEndian 8 value.val

/-- Two's complement, least significant byte first. -/
def encodeI64 (value : I64) : Bytes := littleEndian 8 (value.val % 2 ^ 64).toNat

@[simp]
theorem length_encodeU32 (value : U32) : (encodeU32 value).length = 4 :=
  length_littleEndian 4 value.val

@[simp]
theorem length_encodeU64 (value : U64) : (encodeU64 value).length = 8 :=
  length_littleEndian 8 value.val

@[simp]
theorem length_encodeI64 (value : I64) : (encodeI64 value).length = 8 :=
  length_littleEndian 8 _

theorem encodeU32_injective : Function.Injective encodeU32 := by
  intro left right heq
  apply Fin.ext
  exact littleEndian_injective (by omega) (by omega) heq

theorem encodeU64_injective : Function.Injective encodeU64 := by
  intro left right heq
  apply Fin.ext
  exact littleEndian_injective (by omega) (by omega) heq

theorem encodeI64_injective : Function.Injective encodeI64 := by
  intro left right heq
  have hresidue : (left.val % 2 ^ 64).toNat = (right.val % 2 ^ 64).toNat :=
    littleEndian_injective (by omega) (by omega) heq
  have hleft := left.lower
  have hleft' := left.upper
  have hright := right.lower
  have hright' := right.upper
  apply I64.ext
  omega

end DexterVault.Framing
