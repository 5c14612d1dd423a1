import DexterVault.Core.BitString
import DexterVault.Program.Deployment

/-!
# The base64url decoder

The decoder keeps pending bits at the low end of a 32-bit accumulator and never
clears the bits above them.  It computes the bit string of its symbols all the
same: the bytes it writes are the whole octets of that string, and bits that do
not fill a last octet are dropped.
-/

namespace DexterVault.Decoder

open DexterVault.BitString
open DexterVault.Framing
open DexterVault.Accounts
open DexterVault.Webauthn
open DexterVault.Deployment

/-! ## The specification -/

def alphabet : Bytes :=
  ascii "ABCDEFGHIJKLMNOPQRSTUVWXYZabcdefghijklmnopqrstuvwxyz0123456789-_"

/-- The byte `=`. -/
def padding : Byte := 61

/-- What precedes the first `=`. -/
def symbols (input : Bytes) : Bytes := input.takeWhile (· ≠ padding)

def sixBits (symbol : Byte) : List Bool := bits 6 (alphabet.idxOf symbol)

/-- The whole bytes of a bit string. -/
def octets (string : List Bool) : Bytes := (groups 8 string).map (Fin.ofNat 256)

theorem length_octets (string : List Bool) :
    (octets string).length = string.length / 8 := by
  rw [octets, List.length_map, length_groups]

theorem length_flatMap_sixBits (input : Bytes) :
    (input.flatMap sixBits).length = 6 * input.length := by
  induction input with
  | nil => rfl
  | cons symbol rest ih =>
      rw [List.flatMap_cons, List.length_append, ih, sixBits, length_bits,
        List.length_cons, Nat.mul_succ, Nat.add_comm]

theorem octets_of_length_lt {string : List Bool} (hlength : string.length < 8) :
    octets string = [] := by
  rw [octets, groups_of_length_lt hlength, List.map_nil]

theorem octets_bits_of_lt {pending : ℕ} (buffer : ℕ) (hpending : pending < 8) :
    octets (bits pending buffer) = [] :=
  octets_of_length_lt ((length_bits pending buffer).trans_lt hpending)

/-- A first octet is written by the low byte of the number it comes from. -/
theorem octets_bits_append (number : ℕ) (rest : List Bool) :
    octets (bits 8 number ++ rest) = Fin.ofNat 256 number :: octets rest := by
  have hbyte : Fin.ofNat 256 (number % 2 ^ 8) = Fin.ofNat 256 number :=
    Fin.ext (Nat.mod_mod number 256)
  rw [octets, groups_append (by decide) (length_bits 8 number), List.map_cons,
    ofBits_bits, hbyte, octets]

/-! ## The symbols -/

theorem alphabet_eq : alphabet = (List.range 64).map base64urlSymbol := by
  decide

theorem base64urlValue_symbol : ∀ value : Fin 64,
    base64urlValue (base64urlSymbol value) = some value.val := by
  decide

theorem symbol_of_base64urlValue : ∀ byte : Byte, ∀ value ∈ base64urlValue byte,
    value < 64 ∧ base64urlSymbol value = byte := by
  decide +kernel

section Symbols

variable {byte : Byte} {value : ℕ}

theorem symbol_mem (hvalue : value < 64) : base64urlSymbol value ∈ alphabet := by
  rw [alphabet_eq]
  exact List.mem_map_of_mem (List.mem_range.mpr hvalue)

theorem idxOf_lt (hmem : byte ∈ alphabet) : alphabet.idxOf byte < 64 := by
  have hlength := List.idxOf_lt_length_of_mem hmem
  rw [alphabet_eq, List.length_map, List.length_range] at hlength
  rw [alphabet_eq]
  exact hlength

theorem symbol_idxOf (hmem : byte ∈ alphabet) :
    base64urlSymbol (alphabet.idxOf byte) = byte := by
  have hindex := List.getElem_idxOf (List.idxOf_lt_length_of_mem hmem)
  simp only [alphabet_eq, List.getElem_map, List.getElem_range] at hindex ⊢
  exact hindex

theorem base64urlValue_of_mem (hmem : byte ∈ alphabet) :
    base64urlValue byte = some (alphabet.idxOf byte) := by
  have hvalue := base64urlValue_symbol ⟨alphabet.idxOf byte, idxOf_lt hmem⟩
  rw [symbol_idxOf hmem] at hvalue
  exact hvalue

theorem base64urlValue_of_notMem (hforeign : byte ∉ alphabet) :
    base64urlValue byte = none := by
  cases hvalue : base64urlValue byte with
  | none => rfl
  | some value =>
      obtain ⟨hsmall, rfl⟩ := symbol_of_base64urlValue byte value hvalue
      exact absurd (symbol_mem hsmall) hforeign

theorem idxOf_symbol (hvalue : value < 64) :
    alphabet.idxOf (base64urlSymbol value) = value := by
  have hindex := base64urlValue_of_mem (symbol_mem hvalue)
  rw [base64urlValue_symbol ⟨value, hvalue⟩] at hindex
  exact (Option.some.inj hindex).symm

theorem sixBits_symbol (hvalue : value < 64) :
    sixBits (base64urlSymbol value) = bits 6 value := by
  rw [sixBits, idxOf_symbol hvalue]

end Symbols

theorem padding_notMem_alphabet : padding ∉ alphabet := by
  intro hmem
  have hvalue : base64urlValue padding = none := rfl
  rw [base64urlValue_of_mem hmem] at hvalue
  cases hvalue

/-- Reading one byte: it ends the symbols, or is one of them. -/
theorem symbols_cons (byte : Byte) (rest : Bytes) :
    symbols (byte :: rest) =
      if byte = padding then [] else byte :: symbols rest := by
  rw [symbols, List.takeWhile_cons, symbols]
  by_cases hbyte : byte = padding <;> simp [hbyte]

/-! ## The loop -/

/-- The accumulator with one more symbol in it. -/
def push (buffer value : ℕ) : ℕ := ((buffer <<< 6) % 2 ^ 32) ||| value

section Loop

variable {buffer pending value : ℕ} {byte : Byte} {rest input : Bytes}

/-- A new symbol is appended to the pending bits.  What the accumulator holds
above them stays above them. -/
theorem bits_push (hvalue : value < 2 ^ 6) (hpending : pending ≤ 26) :
    bits (pending + 6) (push buffer value) =
      bits pending buffer ++ bits 6 value := by
  have hhigh : bits pending (push buffer value >>> 6) = bits pending buffer := by
    apply bits_congr
    intro index hindex
    have hclear : value.testBit (6 + index) = false :=
      Nat.testBit_lt_two_pow (hvalue.trans_le
        (Nat.pow_le_pow_right (by decide) (Nat.le_add_right 6 index)))
    have hkept : 6 + index < 32 := by omega
    rw [push, Nat.testBit_shiftRight, Nat.testBit_or, Nat.testBit_mod_two_pow,
      Nat.testBit_shiftLeft, hclear, Bool.or_false]
    simp [hkept]
  have hlow : bits 6 (push buffer value) = bits 6 value := by
    apply bits_congr
    intro index hindex
    have hbelow : ¬ index ≥ 6 := Nat.not_le_of_lt hindex
    rw [push, Nat.testBit_or, Nat.testBit_mod_two_pow, Nat.testBit_shiftLeft]
    simp [hbelow]
  rw [bits_add, hhigh, hlow]

theorem base64urlDecodeFrom_padding :
    base64urlDecodeFrom buffer pending (padding :: rest) = .ok [] :=
  rfl

theorem base64urlDecodeFrom_symbol (hmem : byte ∈ alphabet) :
    base64urlDecodeFrom buffer pending (byte :: rest) =
      if 8 ≤ pending + 6 then do
        let decoded ← base64urlDecodeFrom (push buffer (alphabet.idxOf byte))
          (pending + 6 - 8) rest
        return Fin.ofNat 256
          (push buffer (alphabet.idxOf byte) >>> (pending + 6 - 8)) :: decoded
      else
        base64urlDecodeFrom (push buffer (alphabet.idxOf byte)) (pending + 6)
          rest := by
  have hbyte : ¬ byte.val = 61 := fun heq => by
    obtain rfl : byte = padding := Fin.ext heq
    exact padding_notMem_alphabet hmem
  rw [base64urlDecodeFrom, if_neg hbyte, base64urlValue_of_mem hmem]
  rfl

theorem base64urlDecodeFrom_foreign (hbyte : byte ≠ padding)
    (hforeign : byte ∉ alphabet) :
    base64urlDecodeFrom buffer pending (byte :: rest) =
      .error VaultError.passkeyVerificationFailed := by
  have hval : ¬ byte.val = 61 := fun heq => hbyte (Fin.ext heq)
  rw [base64urlDecodeFrom, if_neg hval, base64urlValue_of_notMem hforeign]

/-- The loop invariant: the bits still to be written are the pending ones and
those of the symbols to come. -/
theorem base64urlDecodeFrom_eq
    (hsymbols : ∀ symbol ∈ symbols input, symbol ∈ alphabet)
    (hpending : pending < 8) :
    base64urlDecodeFrom buffer pending input =
      .ok (octets (bits pending buffer ++ (symbols input).flatMap sixBits)) := by
  induction input generalizing buffer pending with
  | nil =>
      rw [symbols, List.takeWhile_nil, List.flatMap_nil, List.append_nil,
        octets_bits_of_lt buffer hpending]
      rfl
  | cons byte rest ih =>
      rw [symbols_cons] at hsymbols ⊢
      by_cases hbyte : byte = padding
      · subst hbyte
        rw [if_pos rfl, List.flatMap_nil, List.append_nil,
          octets_bits_of_lt buffer hpending, base64urlDecodeFrom_padding]
      rw [if_neg hbyte] at hsymbols ⊢
      have hmem : byte ∈ alphabet := hsymbols byte List.mem_cons_self
      have hrest : ∀ symbol ∈ symbols rest, symbol ∈ alphabet :=
        fun symbol hsymbol => hsymbols symbol (List.mem_cons_of_mem _ hsymbol)
      have hpush : bits (pending + 6) (push buffer (alphabet.idxOf byte)) =
          bits pending buffer ++ bits 6 (alphabet.idxOf byte) :=
        bits_push (idxOf_lt hmem) (by omega)
      rw [base64urlDecodeFrom_symbol hmem, List.flatMap_cons,
        ← List.append_assoc, sixBits, ← hpush]
      split
      · next hwhole =>
        -- one octet is complete
        obtain ⟨left, hleft⟩ := Nat.exists_eq_add_of_le hwhole
        have hshort : left < 8 := by omega
        rw [hleft, Nat.add_sub_cancel_left, bits_add, List.append_assoc,
          octets_bits_append, ih hrest hshort]
        rfl
      · next hpartial => exact ih hrest (Nat.lt_of_not_le hpartial)

/-- A byte outside the alphabet is an error, wherever it stands. -/
theorem base64urlDecodeFrom_error
    (hforeign : ∃ symbol ∈ symbols input, symbol ∉ alphabet) :
    base64urlDecodeFrom buffer pending input =
      .error VaultError.passkeyVerificationFailed := by
  induction input generalizing buffer pending with
  | nil =>
      obtain ⟨symbol, hsymbol, -⟩ := hforeign
      cases hsymbol
  | cons byte rest ih =>
      rw [symbols_cons] at hforeign
      by_cases hbyte : byte = padding
      · rw [if_pos hbyte] at hforeign
        obtain ⟨symbol, hsymbol, -⟩ := hforeign
        cases hsymbol
      rw [if_neg hbyte] at hforeign
      by_cases hmem : byte ∈ alphabet
      · have hrest : ∃ symbol ∈ symbols rest, symbol ∉ alphabet := by
          obtain ⟨symbol, hsymbol, hout⟩ := hforeign
          rcases List.mem_cons.mp hsymbol with rfl | hlater
          · exact absurd hmem hout
          · exact ⟨symbol, hlater, hout⟩
        rw [base64urlDecodeFrom_symbol hmem]
        split
        · rw [ih hrest]
          rfl
        · exact ih hrest
      · exact base64urlDecodeFrom_foreign hbyte hmem

end Loop

/-! ## Encoding -/

section Encoding

variable {data : Bytes}

def bytesBits (data : Bytes) : List Bool := data.flatMap fun byte => bits 8 byte.val

theorem octets_bytesBits (data : Bytes) {leftover : List Bool}
    (hleftover : leftover.length < 8) :
    octets (bytesBits data ++ leftover) = data := by
  induction data with
  | nil => exact octets_of_length_lt hleftover
  | cons byte rest ih =>
      have hbyte : Fin.ofNat 256 byte.val = byte :=
        Fin.ext (Nat.mod_eq_of_lt byte.isLt)
      calc
        octets (bytesBits (byte :: rest) ++ leftover) =
            octets (bits 8 byte.val ++ (bytesBits rest ++ leftover)) := by
          rw [bytesBits, List.flatMap_cons, List.append_assoc, bytesBits]
        _ = byte :: rest := by rw [octets_bits_append, ih, hbyte]

theorem base64urlEncode_mem :
    ∀ symbol ∈ base64urlEncode data, symbol ∈ alphabet := by
  induction data using base64urlEncode.induct with
  | case1 => simp [base64urlEncode]
  | case2 a =>
      rw [base64urlEncode]
      simp only [List.forall_mem_cons, List.not_mem_nil, false_implies,
        implies_true, and_true]
      exact ⟨symbol_mem (by omega), symbol_mem (by omega)⟩
  | case3 a b =>
      rw [base64urlEncode]
      simp only [List.forall_mem_cons, List.not_mem_nil, false_implies,
        implies_true, and_true]
      exact ⟨symbol_mem (by omega), symbol_mem (by omega), symbol_mem (by omega)⟩
  | case4 a b c rest ih =>
      rw [base64urlEncode]
      simp only [List.forall_mem_cons]
      exact ⟨symbol_mem (by omega), symbol_mem (by omega), symbol_mem (by omega),
        symbol_mem (by omega), ih⟩

/-! The bits of a byte are divided between two symbols. -/

theorem bits_first (byte : Byte) :
    bits 8 byte.val = bits 6 (byte.val / 4) ++ bits 2 (byte.val % 4) :=
  bits_div_mod 6 2 byte.val

theorem bits_second (byte : Byte) :
    bits 8 byte.val = bits 4 (byte.val / 16) ++ bits 4 (byte.val % 16) :=
  bits_div_mod 4 4 byte.val

theorem bits_third (byte : Byte) :
    bits 8 byte.val = bits 2 (byte.val / 64) ++ bits 6 (byte.val % 64) :=
  bits_div_mod 2 6 byte.val

theorem sixBits_second (high low : ℕ) (hhigh : high < 4) (hlow : low < 16) :
    sixBits (base64urlSymbol (high * 16 + low)) = bits 2 high ++ bits 4 low := by
  have hfits : low < 2 ^ 4 := hlow
  rw [sixBits_symbol (by omega)]
  exact bits_mul_add 2 hfits

theorem sixBits_third (high low : ℕ) (hhigh : high < 16) (hlow : low < 4) :
    sixBits (base64urlSymbol (high * 4 + low)) = bits 4 high ++ bits 2 low := by
  have hfits : low < 2 ^ 2 := hlow
  rw [sixBits_symbol (by omega)]
  exact bits_mul_add 4 hfits

/-- The symbols of an encoding carry the bits of the data, and fewer than eight
bits more. -/
theorem flatMap_base64urlEncode (data : Bytes) :
    ∃ leftover, leftover.length < 8 ∧
      (base64urlEncode data).flatMap sixBits = bytesBits data ++ leftover := by
  induction data using base64urlEncode.induct with
  | case1 => exact ⟨[], Nat.zero_lt_succ 7, rfl⟩
  | case2 a =>
      have hfirst : sixBits (base64urlSymbol (a.val / 4)) = bits 6 (a.val / 4) :=
        sixBits_symbol (by omega)
      have hsecond := sixBits_second (a.val % 4) 0 (by omega) (by omega)
      rw [Nat.add_zero] at hsecond
      refine ⟨bits 4 0, (length_bits 4 0).trans_lt (by omega), ?_⟩
      rw [base64urlEncode, List.flatMap_cons, List.flatMap_cons, List.flatMap_nil,
        List.append_nil, hfirst, hsecond, bytesBits, List.flatMap_cons,
        List.flatMap_nil, List.append_nil, bits_first, List.append_assoc]
  | case3 a b =>
      have hfirst : sixBits (base64urlSymbol (a.val / 4)) = bits 6 (a.val / 4) :=
        sixBits_symbol (by omega)
      have hsecond : sixBits (base64urlSymbol (a.val % 4 * 16 + b.val / 16)) =
          bits 2 (a.val % 4) ++ bits 4 (b.val / 16) :=
        sixBits_second (a.val % 4) (b.val / 16) (by omega) (by omega)
      have hthird := sixBits_third (b.val % 16) 0 (by omega) (by omega)
      rw [Nat.add_zero] at hthird
      refine ⟨bits 2 0, (length_bits 2 0).trans_lt (by omega), ?_⟩
      rw [base64urlEncode, bytesBits]
      simp only [List.flatMap_cons, List.flatMap_nil, List.append_nil,
        List.append_assoc, hfirst, hsecond, hthird, bits_first a, bits_second b]
  | case4 a b c rest ih =>
      obtain ⟨leftover, hleftover, hrest⟩ := ih
      have hfirst : sixBits (base64urlSymbol (a.val / 4)) = bits 6 (a.val / 4) :=
        sixBits_symbol (by omega)
      have hsecond : sixBits (base64urlSymbol (a.val % 4 * 16 + b.val / 16)) =
          bits 2 (a.val % 4) ++ bits 4 (b.val / 16) :=
        sixBits_second (a.val % 4) (b.val / 16) (by omega) (by omega)
      have hthird : sixBits (base64urlSymbol (b.val % 16 * 4 + c.val / 64)) =
          bits 4 (b.val % 16) ++ bits 2 (c.val / 64) :=
        sixBits_third (b.val % 16) (c.val / 64) (by omega) (by omega)
      have hfourth : sixBits (base64urlSymbol (c.val % 64)) = bits 6 (c.val % 64) :=
        sixBits_symbol (by omega)
      refine ⟨leftover, hleftover, ?_⟩
      rw [base64urlEncode, bytesBits]
      simp only [List.flatMap_cons, List.append_assoc, hfirst, hsecond, hthird,
        hfourth, hrest, bytesBits, bits_first a, bits_second b, bits_third c]

end Encoding

/-! ## The decoder meets its specification -/

section Decoder

variable {input : Bytes}

theorem base64urlDecode_eq
    (hsymbols : ∀ symbol ∈ symbols input, symbol ∈ alphabet) :
    base64urlDecode input = .ok (octets ((symbols input).flatMap sixBits)) := by
  have hdecode := @base64urlDecodeFrom_eq 0 0 input hsymbols (by decide)
  rw [bits, List.nil_append] at hdecode
  exact hdecode

theorem base64urlDecode_error_iff :
    (∃ error, base64urlDecode input = .error error) ↔
      ∃ symbol ∈ symbols input, symbol ∉ alphabet := by
  constructor
  · rintro ⟨error, herror⟩
    by_contra hnone
    push Not at hnone
    rw [base64urlDecode_eq hnone] at herror
    cases herror
  · exact fun hforeign => ⟨_, base64urlDecodeFrom_error hforeign⟩

/-- A suffix that is empty or begins with `=` is not read. -/
theorem symbols_base64urlEncode_append (data : Bytes) {suffix : Bytes}
    (hsuffix : suffix = [] ∨ ∃ rest, suffix = padding :: rest) :
    symbols (base64urlEncode data ++ suffix) = base64urlEncode data := by
  have hkept : ∀ symbol ∈ base64urlEncode data,
      decide (symbol ≠ padding) = true := by
    intro symbol hsymbol
    rw [decide_eq_true_eq]
    rintro rfl
    exact padding_notMem_alphabet (base64urlEncode_mem _ hsymbol)
  have hdropped : symbols suffix = [] := by
    rcases hsuffix with rfl | ⟨rest, rfl⟩
    · rfl
    · rw [symbols_cons, if_pos rfl]
  rw [symbols, List.takeWhile_append_of_pos hkept]
  change base64urlEncode data ++ symbols suffix = base64urlEncode data
  rw [hdropped, List.append_nil]

theorem base64urlDecode_encode (data : Bytes) {suffix : Bytes}
    (hsuffix : suffix = [] ∨ ∃ rest, suffix = padding :: rest) :
    base64urlDecode (base64urlEncode data ++ suffix) = .ok data := by
  have hread := symbols_base64urlEncode_append data hsuffix
  obtain ⟨leftover, hleftover, hbits⟩ := flatMap_base64urlEncode data
  have hsymbols : ∀ symbol ∈ symbols (base64urlEncode data ++ suffix),
      symbol ∈ alphabet := by
    rw [hread]
    exact base64urlEncode_mem
  rw [base64urlDecode_eq hsymbols, hread, hbits, octets_bytesBits data hleftover]

/-- The decoder fails exactly on a byte outside the alphabet in front of the
first `=`.  Otherwise it writes the whole bytes of the bits of its symbols, and
so it recovers what was encoded, with and without padding. -/
theorem base64urlDecode_spec :
    (∀ input, (∃ error, base64urlDecode input = .error error) ↔
      ∃ symbol ∈ symbols input, symbol ∉ alphabet) ∧
    (∀ input, (∀ symbol ∈ symbols input, symbol ∈ alphabet) →
      ∃ decoded, base64urlDecode input = .ok decoded ∧
        decoded = octets ((symbols input).flatMap sixBits) ∧
        decoded.length = 6 * (symbols input).length / 8) ∧
    ∀ data suffix, (suffix = [] ∨ ∃ rest, suffix = padding :: rest) →
      base64urlDecode (base64urlEncode data ++ suffix) = .ok data := by
  refine ⟨fun _ => base64urlDecode_error_iff, fun input hsymbols => ?_,
    fun data suffix hsuffix => base64urlDecode_encode data hsuffix⟩
  refine ⟨_, base64urlDecode_eq hsymbols, rfl, ?_⟩
  rw [length_octets, length_flatMap_sixBits]

theorem base64urlDecode_spec_padded :
    base64urlDecode (base64urlEncode [1, 2] ++ [padding]) = .ok [1, 2] :=
  base64urlDecode_spec.2.2 [1, 2] [padding] (.inr ⟨[], rfl⟩)

end Decoder

end DexterVault.Decoder
