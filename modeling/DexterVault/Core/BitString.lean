import Mathlib.Data.List.Basic
import Mathlib.Tactic.Ring

/-!
# Bit strings, most significant bit first

A number is written as the string of its low bits, and a bit string is cut into
groups of a fixed width; bits that do not fill a last group are dropped.
-/

namespace DexterVault.BitString

/-- The `width` low bits of a number. -/
def bits (width number : ℕ) : List Bool :=
  match width with
  | 0 => []
  | width + 1 => number.testBit width :: bits width number

/-- The number that a bit string writes. -/
def ofBits : List Bool → ℕ
  | [] => 0
  | bit :: rest => 2 ^ rest.length * bit.toNat + ofBits rest

/-- The numbers that the whole groups of `width` bits write. -/
def groups (width : ℕ) (string : List Bool) : List ℕ :=
  (List.range (string.length / width)).map fun index =>
    ofBits ((string.drop (index * width)).take width)

/-! ## Numbers -/

section Numbers

variable {width left right : ℕ}

@[simp]
theorem length_bits (width number : ℕ) : (bits width number).length = width := by
  induction width with
  | zero => rfl
  | succ width ih => rw [bits, List.length_cons, ih]

theorem ofBits_bits (width number : ℕ) :
    ofBits (bits width number) = number % 2 ^ width := by
  induction width with
  | zero => rw [bits, ofBits, pow_zero, Nat.mod_one]
  | succ width ih =>
      calc
        ofBits (bits (width + 1) number) =
            2 ^ width * (number.testBit width).toNat + number % 2 ^ width := by
          rw [bits, ofBits, length_bits, ih]
        _ = number % 2 ^ (width + 1) := by
          rw [Nat.toNat_testBit, Nat.mod_pow_succ, Nat.add_comm]

/-- Only the low bits count. -/
theorem bits_congr
    (hbits : ∀ index < width, left.testBit index = right.testBit index) :
    bits width left = bits width right := by
  induction width with
  | zero => rfl
  | succ width ih =>
      have htop : left.testBit width = right.testBit width :=
        hbits width (Nat.lt_succ_self width)
      have hrest : bits width left = bits width right :=
        ih fun index hindex => hbits index (Nat.lt_succ_of_lt hindex)
      rw [bits, bits, htop, hrest]

/-- The high bits come first. -/
theorem bits_add (high low number : ℕ) :
    bits (high + low) number = bits high (number >>> low) ++ bits low number := by
  induction high with
  | zero => rw [Nat.zero_add, bits, List.nil_append]
  | succ high ih =>
      rw [Nat.succ_add, bits, bits, ih, List.cons_append, Nat.testBit_shiftRight,
        Nat.add_comm low high]

theorem bits_mod (width number : ℕ) :
    bits width (number % 2 ^ width) = bits width number := by
  apply bits_congr
  intro index hindex
  rw [Nat.testBit_mod_two_pow, decide_eq_true hindex, Bool.true_and]

/-- A number is written by its quotient and its remainder. -/
theorem bits_div_mod (high low number : ℕ) :
    bits (high + low) number =
      bits high (number / 2 ^ low) ++ bits low (number % 2 ^ low) := by
  rw [bits_add, Nat.shiftRight_eq_div_pow, bits_mod]

theorem bits_mul_add {low : ℕ} (high : ℕ) (hright : right < 2 ^ low) :
    bits (high + low) (left * 2 ^ low + right) =
      bits high left ++ bits low right := by
  have hquotient : (left * 2 ^ low + right) / 2 ^ low = left := by
    rw [Nat.mul_comm, Nat.mul_add_div (Nat.two_pow_pos low),
      Nat.div_eq_of_lt hright, Nat.add_zero]
  rw [bits_div_mod, hquotient, Nat.mul_add_mod_self_right,
    Nat.mod_eq_of_lt hright]

end Numbers

/-! ## Groups -/

section Groups

variable {width : ℕ} {front string rest : List Bool}

theorem length_groups (width : ℕ) (string : List Bool) :
    (groups width string).length = string.length / width := by
  rw [groups, List.length_map, List.length_range]

/-- Leftover bits form no group. -/
theorem groups_of_length_lt (hlength : string.length < width) :
    groups width string = [] := by
  rw [groups, Nat.div_eq_of_lt hlength, List.range_zero, List.map_nil]

/-- A first group is split off. -/
theorem groups_append (hwidth : 0 < width) (hfront : front.length = width) :
    groups width (front ++ rest) = ofBits front :: groups width rest := by
  have hlength : (front ++ rest).length / width = rest.length / width + 1 := by
    rw [List.length_append, hfront, Nat.add_div_left _ hwidth]
  have htail : ∀ index, (front ++ rest).drop ((index + 1) * width) =
      rest.drop (index * width) := by
    intro index
    rw [Nat.succ_mul, Nat.add_comm, ← List.drop_drop, List.drop_left' hfront]
  rw [groups, hlength, List.range_succ_eq_map, List.map_cons, List.map_map,
    Nat.zero_mul, List.drop_zero, List.take_left' hfront, groups]
  congr 1
  apply List.map_congr_left
  intro index _
  rw [Function.comp_apply, htail]

end Groups

end DexterVault.BitString
