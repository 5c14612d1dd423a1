import DexterVault.Core.Framing
import Mathlib.Data.Option.Basic
import Mathlib.Logic.Equiv.Defs

/-!
# Borsh encodings

A codec writes a value as a byte string and reads it back from the front of a
longer one.  Its single law says that reading succeeds exactly on the strings
that begin with an encoding, so a codec carries its own round trip, its
prefix-freeness and the fact that no value has two encodings.  Integers,
arrays, options and products are codecs, and a structure is the product of its
fields.
-/

namespace DexterVault.Borsh

open DexterVault.Machine
open DexterVault.Framing

structure Codec (Value : Type) where
  /-- The longest encoding, Anchor's `INIT_SPACE`. -/
  space : ℕ
  encode : Value → Bytes
  /-- The value at the front and the bytes that follow it. -/
  decode : Bytes → Option (Value × Bytes)
  decode_eq_some_iff : ∀ {bytes : Bytes} {value : Value} {rest : Bytes},
    decode bytes = some (value, rest) ↔ bytes = encode value ++ rest
  length_encode_le : ∀ value, (encode value).length ≤ space

namespace Codec

variable {Value Left Right Target : Type}

@[simp]
theorem decode_encode_append (codec : Codec Value) (value : Value)
    (rest : Bytes) : codec.decode (codec.encode value ++ rest) =
      some (value, rest) :=
  codec.decode_eq_some_iff.mpr rfl

@[simp]
theorem decode_encode (codec : Codec Value) (value : Value) :
    codec.decode (codec.encode value) = some (value, []) :=
  codec.decode_eq_some_iff.mpr (List.append_nil _).symm

/-- Encodings are prefix-free: two of them at the front of one string are the
same. -/
theorem encode_append_inj (codec : Codec Value) {left right : Value}
    {leftRest rightRest : Bytes}
    (heq : codec.encode left ++ leftRest = codec.encode right ++ rightRest) :
    left = right ∧ leftRest = rightRest := by
  have hdecoded := codec.decode_encode_append left leftRest
  rw [heq, decode_encode_append, Option.some.injEq, Prod.mk.injEq] at hdecoded
  exact ⟨hdecoded.1.symm, hdecoded.2.symm⟩

/-- Of two encodings that begin one string neither is longer. -/
theorem eq_of_prefix (codec : Codec Value) {left right : Value} {bytes : Bytes}
    (hleft : codec.encode left <+: bytes) (hright : codec.encode right <+: bytes) :
    left = right := by
  obtain ⟨leftRest, rfl⟩ := hleft
  obtain ⟨rightRest, hright⟩ := hright
  exact (codec.encode_append_inj hright.symm).1

/-! ## Codecs -/

def byte : Codec Byte where
  space := 1
  encode value := [value]
  decode
    | [] => none
    | value :: rest => some (value, rest)
  decode_eq_some_iff := by
    intro bytes value rest
    cases bytes <;> simp
  length_encode_le _ := Nat.le_refl 1

/-- Rust's `[u8; length]`. -/
def array (length : ℕ) : Codec (FixedBytes length) where
  space := length
  encode value := value.toList
  decode bytes :=
    if h : length ≤ bytes.length then
      some (⟨bytes.take length, List.length_take_of_le h⟩, bytes.drop length)
    else none
  decode_eq_some_iff := by
    intro bytes value rest
    have hlength : value.toList.length = length := value.toList_length
    constructor
    · intro hdecode
      split at hdecode
      · cases hdecode
        exact (List.take_append_drop length bytes).symm
      · cases hdecode
    · rintro rfl
      have hfits : length ≤ (value.toList ++ rest).length := by
        rw [List.length_append]
        omega
      rw [dif_pos hfits]
      simp only [List.take_left' hlength, List.drop_left' hlength]
      rfl
  length_encode_le value := by rw [value.toList_length]

/-- A fixed-width unsigned integer, least significant byte first. -/
def integer (width : ℕ) {bound : ℕ} (hbound : bound = 256 ^ width) :
    Codec (Fin bound) where
  space := width
  encode value := littleEndian width value.val
  decode bytes :=
    if h : width ≤ bytes.length then
      some (⟨fromLittleEndian (bytes.take width), by
        have hlt := fromLittleEndian_lt (bytes.take width)
        rw [List.length_take_of_le h] at hlt
        rw [hbound]
        exact hlt⟩, bytes.drop width)
    else none
  decode_eq_some_iff := by
    intro bytes value rest
    have hlength : (littleEndian width value.val).length = width :=
      length_littleEndian width value.val
    constructor
    · intro hdecode
      split at hdecode
      · next hfits =>
        cases hdecode
        have htake := littleEndian_fromLittleEndian (bytes.take width)
        rw [List.length_take_of_le hfits] at htake
        rw [htake, List.take_append_drop]
      · cases hdecode
    · rintro rfl
      have hfits : width ≤ (littleEndian width value.val ++ rest).length := by
        rw [List.length_append]
        omega
      have hvalue : value.val < 256 ^ width := hbound ▸ value.isLt
      rw [dif_pos hfits]
      simp only [List.take_left' hlength, List.drop_left' hlength,
        fromLittleEndian_littleEndian hvalue]
  length_encode_le value := by rw [length_littleEndian]

/-- One value after another. -/
def prod (left : Codec Left) (right : Codec Right) : Codec (Left × Right) where
  space := left.space + right.space
  encode value := left.encode value.1 ++ right.encode value.2
  decode bytes := do
    let (first, rest) ← left.decode bytes
    let (second, rest) ← right.decode rest
    return ((first, second), rest)
  decode_eq_some_iff := by
    rintro bytes ⟨first, second⟩ rest
    simp only [Option.bind_eq_bind, Option.bind_eq_some_iff, Prod.exists,
      left.decode_eq_some_iff, right.decode_eq_some_iff, Option.pure_def,
      Option.some.injEq, Prod.mk.injEq]
    constructor
    · rintro ⟨_, _, rfl, _, _, rfl, ⟨rfl, rfl⟩, rfl⟩
      exact (List.append_assoc ..).symm
    · rintro rfl
      exact ⟨first, right.encode second ++ rest, List.append_assoc .., second,
        rest, rfl, ⟨rfl, rfl⟩, rfl⟩
  length_encode_le value := by
    rw [List.length_append]
    exact Nat.add_le_add (left.length_encode_le _) (right.length_encode_le _)

/-- A tag byte, 0 for `None` and 1 for `Some`. -/
def option (codec : Codec Value) : Codec (Option Value) where
  space := 1 + codec.space
  encode
    | none => [0]
    | some value => 1 :: codec.encode value
  decode
    | [] => none
    | tag :: rest =>
        if tag = 0 then some (none, rest)
        else if tag = 1 then
          (codec.decode rest).map fun (value, rest) => (some value, rest)
        else none
  decode_eq_some_iff := by
    intro bytes value rest
    cases bytes with
    | nil => cases value <;> simp
    | cons tag bytes =>
        by_cases hzero : tag = 0
        · subst hzero
          cases value <;> simp
        by_cases hone : tag = 1
        · subst hone
          cases value with
          | none => simp [Option.map_eq_some_iff]
          | some value =>
              simp [Option.map_eq_some_iff, codec.decode_eq_some_iff]
        · cases value <;> simp [hzero, hone]
  length_encode_le value := by
    cases value with
    | none => exact Nat.le_add_right 1 codec.space
    | some value =>
        rw [List.length_cons, Nat.add_comm]
        exact Nat.add_le_add_left (codec.length_encode_le value) 1

/-- An enum without fields is encoded as the index of the variant. -/
def enumeration {count : ℕ} (hcount : count ≤ 256)
    (variants : Fin count ≃ Value) : Codec Value where
  space := 1
  encode value := [Fin.castLE hcount (variants.symm value)]
  decode
    | [] => none
    | tag :: rest =>
        if h : tag.val < count then some (variants ⟨tag.val, h⟩, rest) else none
  decode_eq_some_iff := by
    intro bytes value rest
    cases bytes with
    | nil => simp
    | cons tag bytes =>
        change (if h : tag.val < count then
            some (variants ⟨tag.val, h⟩, bytes) else none) = some (value, rest) ↔
          tag :: bytes = Fin.castLE hcount (variants.symm value) :: rest
        rw [List.cons.injEq]
        constructor
        · intro hdecode
          split at hdecode
          · cases hdecode
            rw [Equiv.symm_apply_apply]
            exact ⟨rfl, rfl⟩
          · cases hdecode
        · rintro ⟨rfl, rfl⟩
          have hindex : (Fin.castLE hcount (variants.symm value)).val < count :=
            (variants.symm value).isLt
          rw [dif_pos hindex]
          simp
  length_encode_le _ := Nat.le_refl 1

/-- A structure is encoded as the tuple of its fields. -/
def equiv (codec : Codec Value) (fields : Value ≃ Target) : Codec Target where
  space := codec.space
  encode value := codec.encode (fields.symm value)
  decode bytes := (codec.decode bytes).map fun (value, rest) =>
    (fields value, rest)
  decode_eq_some_iff := by
    intro bytes value rest
    simp only [Option.map_eq_some_iff, Prod.exists, codec.decode_eq_some_iff,
      Prod.mk.injEq]
    constructor
    · rintro ⟨_, _, rfl, rfl, rfl⟩
      rw [Equiv.symm_apply_apply]
    · rintro rfl
      exact ⟨fields.symm value, rest, rfl, fields.apply_symm_apply value, rfl⟩
  length_encode_le value := codec.length_encode_le _

/-! ## The codecs of the primitive types -/

def boolean : Codec Bool := enumeration (by decide) finTwoEquiv
def u8 : Codec U8 := byte
def u32 : Codec U32 := integer 4 (by norm_num)
def u64 : Codec U64 := integer 8 (by norm_num)

/-- The signed reading of 64 bits. -/
def ofTwosComplement (value : U64) : I64 :=
  if h : value.val < 2 ^ 63 then ⟨value.val, by omega, by omega⟩
  else ⟨value.val - 2 ^ 64, by omega, by omega⟩

theorem ofTwosComplement_val (value : U64) :
    (ofTwosComplement value).val =
      if value.val < 2 ^ 63 then (value.val : ℤ) else value.val - 2 ^ 64 := by
  unfold ofTwosComplement
  split <;> rfl

def twosComplement : U64 ≃ I64 where
  toFun := ofTwosComplement
  invFun value := ⟨(value.val % 2 ^ 64).toNat, by omega⟩
  left_inv value := by
    have hlt := value.isLt
    apply Fin.ext
    simp only [ofTwosComplement_val]
    split <;> omega
  right_inv value := by
    have hlower := value.lower
    have hupper := value.upper
    apply I64.ext
    rw [ofTwosComplement_val]
    dsimp only
    split <;> omega

def i64 : Codec I64 := u64.equiv twosComplement

section Lengths

@[simp]
theorem length_encode_u8 (value : U8) : (u8.encode value).length = 1 := rfl

@[simp]
theorem length_encode_array {length : ℕ} (value : FixedBytes length) :
    ((array length).encode value).length = length :=
  value.toList_length

@[simp]
theorem length_encode_u32 (value : U32) : (u32.encode value).length = 4 :=
  length_littleEndian 4 value.val

@[simp]
theorem length_encode_u64 (value : U64) : (u64.encode value).length = 8 :=
  length_littleEndian 8 value.val

@[simp]
theorem length_encode_i64 (value : I64) : (i64.encode value).length = 8 :=
  length_littleEndian 8 _

@[simp]
theorem encode_prod (left : Codec Left) (right : Codec Right)
    (value : Left × Right) : (left.prod right).encode value =
      left.encode value.1 ++ right.encode value.2 := rfl

@[simp]
theorem encode_equiv (codec : Codec Value) (fields : Value ≃ Target)
    (value : Target) :
    (codec.equiv fields).encode value = codec.encode (fields.symm value) := rfl

@[simp]
theorem encode_option_none (codec : Codec Value) :
    codec.option.encode none = [0] := rfl

@[simp]
theorem encode_option_some (codec : Codec Value) (value : Value) :
    codec.option.encode (some value) = 1 :: codec.encode value := rfl

end Lengths

end Codec

/-! ## Account buffers -/

/-- Writing `out` at the front of a buffer that has room for it. -/
def overwrite (out data : Bytes) : Bytes := out ++ data.drop out.length

/-- A buffer cut or extended with zeros to a new size. -/
def resize (size : ℕ) (data : Bytes) : Bytes :=
  data.take size ++ List.replicate (size - data.length) 0

theorem length_overwrite {out data : Bytes} (hfits : out.length ≤ data.length) :
    (overwrite out data).length = data.length := by
  rw [overwrite, List.length_append, List.length_drop]
  omega

@[simp]
theorem length_resize (size : ℕ) (data : Bytes) :
    (resize size data).length = size := by
  rw [resize, List.length_append, List.length_take, List.length_replicate]
  omega

theorem overwrite_append (written middle data : Bytes) :
    overwrite (written ++ middle) data =
      written ++ (middle ++ data.drop (written ++ middle).length) := by
  rw [overwrite, List.append_assoc]

/-- Another front of the same length before the same middle changes the front
alone. -/
theorem overwrite_append_of_length {front written middle rest : Bytes}
    (hlength : written.length = front.length) :
    overwrite (written ++ middle) (front ++ (middle ++ rest)) =
      written ++ (middle ++ rest) := by
  have hrest : (front ++ (middle ++ rest)).drop (written ++ middle).length =
      rest := by
    rw [← List.append_assoc, List.drop_left']
    rw [List.length_append, List.length_append, hlength]
  rw [overwrite_append, hrest]

/-- Of a string that begins with `whole`, only the part of `whole` behind
`front` matters for what may follow `front` instead. -/
theorem prefix_append_iff {whole front rest other : Bytes}
    (hwhole : whole <+: front ++ rest) :
    whole <+: front ++ other ↔
      other.take (whole.length - front.length) =
        rest.take (whole.length - front.length) := by
  rw [List.prefix_iff_eq_take] at hwhole ⊢
  constructor
  · intro hother
    have htakes := hwhole.symm.trans hother
    rw [List.take_append, List.take_append] at htakes
    exact (List.append_cancel_left htakes).symm
  · intro htakes
    rw [List.take_append, htakes, ← List.take_append]
    exact hwhole

/-- A buffer that does not shrink keeps its front. -/
theorem prefix_resize {front data : Bytes} {size : ℕ} (hfront : front <+: data)
    (hgrows : data.length ≤ size) : front <+: resize size data := by
  rw [resize, List.take_of_length_le hgrows]
  exact hfront.trans (List.prefix_append _ _)

/-- A buffer cut to a front of it. -/
theorem resize_append {front rest : Bytes} :
    resize front.length (front ++ rest) = front := by
  have hlength : front.length - (front ++ rest).length = 0 := by
    rw [List.length_append]
    omega
  rw [resize, hlength, List.take_left, List.replicate_zero, List.append_nil]

end DexterVault.Borsh
