import Mathlib.Order.Fin.Basic
import Mathlib.Tactic.Ring

/-!
# Fixed-width machine integers

Rust's unsigned integers are residues `Fin (2 ^ w)`, and `i64` is an integer
that carries its own range.  The operations below are the checked and
saturating ones: a checked operation returns `none` exactly when the exact
result does not fit, a saturating one clamps the exact result to the range.
-/

namespace DexterVault.Machine

abbrev U8 := Fin 256
abbrev U32 := Fin (2 ^ 32)
abbrev U64 := Fin (2 ^ 64)

/-! The literals of these types rest on their sizes not being zero. -/

instance neZeroU8 : NeZero 256 := ⟨by decide⟩
instance neZeroU32 : NeZero (2 ^ 32) := ⟨by decide⟩
instance neZeroU64 : NeZero (2 ^ 64) := ⟨by decide⟩

section Unsigned

variable {bound : ℕ}

def checkedAdd (left right : Fin bound) : Option (Fin bound) :=
  if h : left.val + right.val < bound then
    some ⟨left.val + right.val, h⟩
  else
    none

def checkedSub (left right : Fin bound) : Option (Fin bound) :=
  if right.val ≤ left.val then
    some ⟨left.val - right.val, by omega⟩
  else
    none

def saturatingAdd (left right : Fin bound) : Fin bound :=
  ⟨min (left.val + right.val) (bound - 1), by omega⟩

def saturatingSub (left right : Fin bound) : Fin bound :=
  ⟨left.val - right.val, by omega⟩

theorem checkedAdd_eq_some_iff {left right result : Fin bound} :
    checkedAdd left right = some result ↔
      result.val = left.val + right.val := by
  unfold checkedAdd
  constructor
  · intro h
    split at h
    · cases h
      rfl
    · cases h
  · intro h
    have hfits : left.val + right.val < bound := h ▸ result.isLt
    rw [dif_pos hfits]
    exact congrArg some (Fin.ext h.symm)

theorem checkedAdd_eq_none_iff {left right : Fin bound} :
    checkedAdd left right = none ↔ bound ≤ left.val + right.val := by
  unfold checkedAdd
  split <;> simp <;> omega

theorem checkedSub_eq_some_iff {left right result : Fin bound} :
    checkedSub left right = some result ↔
      right.val ≤ left.val ∧ result.val = left.val - right.val := by
  unfold checkedSub
  constructor
  · intro h
    split at h
    · next hle =>
        cases h
        exact ⟨hle, rfl⟩
    · cases h
  · rintro ⟨hle, hvalue⟩
    rw [if_pos hle]
    exact congrArg some (Fin.ext hvalue.symm)

theorem checkedSub_eq_none_iff {left right : Fin bound} :
    checkedSub left right = none ↔ left.val < right.val := by
  unfold checkedSub
  split <;> simp <;> omega

@[simp]
theorem saturatingSub_val (left right : Fin bound) :
    (saturatingSub left right).val = left.val - right.val := rfl

theorem saturatingAdd_val (left right : Fin bound) :
    (saturatingAdd left right).val = min (left.val + right.val) (bound - 1) :=
  rfl

/-- A saturating addition whose exact result fits does not clamp. -/
theorem saturatingAdd_val_of_lt {left right : Fin bound}
    (hfits : left.val + right.val < bound) :
    (saturatingAdd left right).val = left.val + right.val := by
  rw [saturatingAdd_val]
  omega

end Unsigned

/-- Rust's `i64`: an integer together with the proof that it is in range. -/
structure I64 where
  val : ℤ
  lower : -(2 ^ 63) ≤ val
  upper : val < 2 ^ 63
  deriving DecidableEq

namespace I64

@[ext]
theorem ext {left right : I64} (h : left.val = right.val) : left = right := by
  cases left
  cases right
  cases h
  rfl

instance : LE I64 := ⟨fun left right => left.val ≤ right.val⟩
instance : LT I64 := ⟨fun left right => left.val < right.val⟩
instance (left right : I64) : Decidable (left ≤ right) :=
  inferInstanceAs (Decidable (left.val ≤ right.val))
instance (left right : I64) : Decidable (left < right) :=
  inferInstanceAs (Decidable (left.val < right.val))

theorem le_def {left right : I64} : left ≤ right ↔ left.val ≤ right.val :=
  Iff.rfl

theorem lt_def {left right : I64} : left < right ↔ left.val < right.val :=
  Iff.rfl

/-- The nearest representable value, the clamp of a saturating operation. -/
def saturate (value : ℤ) : I64 :=
  ⟨max (-(2 ^ 63)) (min value (2 ^ 63 - 1)), by omega, by omega⟩

theorem saturate_val (value : ℤ) :
    (saturate value).val = max (-(2 ^ 63)) (min value (2 ^ 63 - 1)) := rfl

def ofInt? (value : ℤ) : Option I64 :=
  if h : -(2 ^ 63) ≤ value ∧ value < 2 ^ 63 then
    some ⟨value, h.1, h.2⟩
  else
    none

theorem ofInt?_eq_some_iff {value : ℤ} {result : I64} :
    ofInt? value = some result ↔ result.val = value := by
  unfold ofInt?
  constructor
  · intro h
    split at h
    · cases h
      rfl
    · cases h
  · rintro rfl
    rw [dif_pos ⟨result.lower, result.upper⟩]

def zero : I64 := saturate 0
def maximum : I64 := saturate (2 ^ 63 - 1)

def checkedAdd (left right : I64) : Option I64 := ofInt? (left.val + right.val)
def checkedSub (left right : I64) : Option I64 := ofInt? (left.val - right.val)
def saturatingSub (left right : I64) : I64 := saturate (left.val - right.val)

/-- `i64::abs` in a build with overflow checks: the absolute value of the
least element does not fit and aborts the instruction. -/
def abs? (value : I64) : Option I64 := ofInt? value.val.natAbs

/-- An absolute difference below the maximum is exact: a difference that does
not fit counts as the maximum. -/
theorem abs?_checkedSub_getD {left right drift : I64}
    (habs : ((left.checkedSub right).getD maximum).abs? = some drift)
    (hsmall : drift.val < maximum.val) :
    drift.val = (left.val - right.val).natAbs := by
  rw [abs?, ofInt?_eq_some_iff] at habs
  cases hdifference : left.checkedSub right with
  | none =>
      have hmaximum : maximum.val = 2 ^ 63 - 1 := rfl
      rw [hdifference, Option.getD_none] at habs
      omega
  | some difference =>
      rw [hdifference, Option.getD_some] at habs
      rw [checkedSub, ofInt?_eq_some_iff] at hdifference
      rw [habs, hdifference]

/-- A saturating difference that reaches a bound within the range does so
exactly. -/
theorem le_saturatingSub {left right : I64} {bound : ℤ}
    (hbound : -(2 ^ 63) < bound)
    (hle : bound ≤ (left.saturatingSub right).val) :
    bound ≤ left.val - right.val := by
  rw [saturatingSub, saturate_val] at hle
  omega

/-- `value.max(0) as u64`. -/
def clampToU64 (value : I64) : U64 :=
  ⟨value.val.toNat, by have := value.upper; omega⟩

theorem clampToU64_val (value : I64) :
    (clampToU64 value).val = value.val.toNat := rfl

end I64

end DexterVault.Machine
