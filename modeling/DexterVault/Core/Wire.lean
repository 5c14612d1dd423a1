import DexterVault.Core.Borsh

/-!
# Messages on the wire

A wire format differs from a codec in two ways: encodings may be of any length,
and a value may have none, such as a byte vector whose length does not fit its
prefix.  Its law is the one of a codec: reading succeeds exactly on the strings
that begin with an encoding.  Formats are composed like codecs, and a family of
formats with a tag of fixed width in front of each is a format again.
-/

namespace DexterVault.Wire

open DexterVault.Machine
open DexterVault.Framing
open DexterVault.Borsh

structure Format (Value : Type) where
  encode : Value → Option Bytes
  /-- The value at the front and the bytes that follow it. -/
  decode : Bytes → Option (Value × Bytes)
  decode_eq_some_iff : ∀ {bytes : Bytes} {value : Value} {rest : Bytes},
    decode bytes = some (value, rest) ↔
      ∃ front, encode value = some front ∧ bytes = front ++ rest

namespace Format

variable {Value Left Right Target : Type}

section Laws

variable (format : Format Value) {value : Value} {front rest : Bytes}

theorem decode_append (hencode : format.encode value = some front) :
    format.decode (front ++ rest) = some (value, rest) :=
  format.decode_eq_some_iff.mpr ⟨front, hencode, rfl⟩

end Laws

/-! ## Formats -/

def ofCodec (codec : Codec Value) : Format Value where
  encode value := some (codec.encode value)
  decode := codec.decode
  decode_eq_some_iff := by
    intro bytes value rest
    simp only [codec.decode_eq_some_iff, Option.some.injEq, exists_eq_left']

/-- No bytes at all. -/
def empty : Format Unit where
  encode _ := some []
  decode bytes := some ((), bytes)
  decode_eq_some_iff := by
    intro bytes value rest
    simp [eq_comm]

/-- `Vec<u8>`: the length in four bytes, and the bytes. -/
def vec : Format Bytes where
  encode value :=
    if h : value.length < 2 ^ 32 then
      some (Codec.u32.encode ⟨value.length, h⟩ ++ value)
    else none
  decode bytes := do
    let (length, rest) ← Codec.u32.decode bytes
    if length.val ≤ rest.length then
      some (rest.take length.val, rest.drop length.val)
    else none
  decode_eq_some_iff := by
    intro bytes value rest
    simp only [Option.bind_eq_bind, Option.bind_eq_some_iff, Prod.exists,
      Codec.decode_eq_some_iff, Option.ite_none_right_eq_some, Option.some.injEq,
      Prod.mk.injEq]
    constructor
    · rintro ⟨length, body, rfl, hfits, rfl, rfl⟩
      have hlength : (body.take length.val).length = length.val :=
        List.length_take_of_le hfits
      have hbound : (body.take length.val).length < 2 ^ 32 :=
        lt_of_eq_of_lt hlength length.isLt
      refine ⟨_, dif_pos hbound, ?_⟩
      have hsame : (⟨(body.take length.val).length, hbound⟩ : U32) = length :=
        Fin.ext hlength
      rw [hsame, List.append_assoc, List.take_append_drop]
    · rintro ⟨front, hencode, rfl⟩
      split at hencode
      · next hbound =>
        cases hencode
        refine ⟨⟨value.length, hbound⟩, value ++ rest, List.append_assoc .., ?_,
          List.take_left, List.drop_left⟩
        rw [List.length_append]
        exact Nat.le_add_right _ _
      · cases hencode

/-- One message after another. -/
def prod (left : Format Left) (right : Format Right) : Format (Left × Right) where
  encode value := do
    let first ← left.encode value.1
    let second ← right.encode value.2
    return first ++ second
  decode bytes := do
    let (first, rest) ← left.decode bytes
    let (second, rest) ← right.decode rest
    return ((first, second), rest)
  decode_eq_some_iff := by
    rintro bytes ⟨first, second⟩ rest
    simp only [Option.bind_eq_bind, Option.bind_eq_some_iff, Prod.exists,
      left.decode_eq_some_iff, right.decode_eq_some_iff, Option.pure_def,
      Option.some.injEq, Prod.mk.injEq]
    constructor
    · rintro ⟨_, _, ⟨front, hfront, rfl⟩, _, _, ⟨back, hback, rfl⟩, ⟨rfl, rfl⟩, rfl⟩
      exact ⟨front ++ back, ⟨front, hfront, back, hback, rfl⟩,
        (List.append_assoc ..).symm⟩
    · rintro ⟨_, ⟨front, hfront, back, hback, rfl⟩, rfl⟩
      exact ⟨first, back ++ rest, ⟨front, hfront, List.append_assoc ..⟩, second,
        rest, ⟨back, hback, rfl⟩, ⟨rfl, rfl⟩, rfl⟩

/-- A structure is encoded as the tuple of its fields. -/
def equiv (format : Format Value) (fields : Value ≃ Target) : Format Target where
  encode value := format.encode (fields.symm value)
  decode bytes := (format.decode bytes).map fun (value, rest) =>
    (fields value, rest)
  decode_eq_some_iff := by
    intro bytes value rest
    simp only [Option.map_eq_some_iff, Prod.exists, format.decode_eq_some_iff,
      Prod.mk.injEq]
    constructor
    · rintro ⟨_, _, ⟨front, hfront, rfl⟩, rfl, rfl⟩
      rw [Equiv.symm_apply_apply]
      exact ⟨front, hfront, rfl⟩
    · rintro ⟨front, hfront, rfl⟩
      exact ⟨fields.symm value, rest, ⟨front, hfront, rfl⟩,
        fields.apply_symm_apply value, rfl⟩

end Format

/-! ## Tags -/

/-- Tags of one width, no two of them the same. -/
structure Tags (Tag : Type) where
  width : ℕ
  tag : Tag → Bytes
  length_tag : ∀ kind, (tag kind).length = width
  find : Bytes → Option Tag
  find_eq_some_iff : ∀ {front kind}, find front = some kind ↔ front = tag kind

section Tagged

variable {Tag : Type} {Payload : Tag → Type} (tags : Tags Tag)
  (payload : (kind : Tag) → Format (Payload kind))

/-- A tag, and the message of the kind it names. -/
def tagged : Format (Sigma Payload) where
  encode message := ((payload message.1).encode message.2).map
    (tags.tag message.1 ++ ·)
  decode bytes := do
    let kind ← tags.find (bytes.take tags.width)
    let (value, rest) ← (payload kind).decode (bytes.drop tags.width)
    return (⟨kind, value⟩, rest)
  decode_eq_some_iff := by
    rintro bytes ⟨kind, value⟩ rest
    simp only [Option.bind_eq_bind, Option.bind_eq_some_iff, Option.map_eq_some_iff,
      Prod.exists, tags.find_eq_some_iff, Format.decode_eq_some_iff,
      Option.pure_def, Option.some.injEq, Prod.mk.injEq]
    constructor
    · rintro ⟨found, hfound, other, _, ⟨front, hfront, hrest⟩, hmessage, rfl⟩
      cases hmessage
      refine ⟨_, ⟨front, hfront, rfl⟩, ?_⟩
      rw [List.append_assoc, ← hrest, ← hfound, List.take_append_drop]
    · rintro ⟨_, ⟨front, hfront, rfl⟩, rfl⟩
      have hwidth := tags.length_tag kind
      rw [List.append_assoc]
      exact ⟨kind, List.take_left' hwidth, value, rest,
        ⟨front, hfront, List.drop_left' hwidth⟩, rfl, rfl⟩

variable {tags} {payload} {bytes rest : Bytes} {message : Sigma Payload}

/-- The tag of a message stands at its front. -/
theorem tag_at_front (hdecode : (tagged tags payload).decode bytes =
    some (message, rest)) : tags.tag message.1 <+: bytes := by
  obtain ⟨_, hencode, rfl⟩ := (tagged tags payload).decode_eq_some_iff.mp hdecode
  obtain ⟨front, -, rfl⟩ := Option.map_eq_some_iff.mp hencode
  rw [List.append_assoc]
  exact List.prefix_append _ _

/-- Of the tags only the one of the message stands there. -/
theorem eq_of_tag_at_front {kind : Tag} (hdecode :
    (tagged tags payload).decode bytes = some (message, rest))
    (hfront : tags.tag kind <+: bytes) : message.1 = kind := by
  have hsame : tags.tag message.1 = tags.tag kind :=
    List.IsPrefix.eq_of_length
      (List.prefix_of_prefix_length_le (tag_at_front hdecode) hfront
        (by rw [tags.length_tag, tags.length_tag]))
      (by rw [tags.length_tag, tags.length_tag])
  have hfound := tags.find_eq_some_iff.mpr hsame
  rw [tags.find_eq_some_iff.mpr rfl] at hfound
  exact Option.some.inj hfound

end Tagged

end DexterVault.Wire
