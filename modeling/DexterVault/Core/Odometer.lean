import Mathlib.Data.List.Basic
import Mathlib.Order.MinMax
import Mathlib.Tactic.Common

/-!
# Two odometers behind one frontier

Two meters count how far one shared range has been used up on two sides.  A
mark is accepted on a side only above the frontier, the larger of the two
meters, and pays the distance from the meter of its own side.  This file says
what a history of accepted marks pays, which units each side covers, and when
the two sides together stay below the frontier.
-/

namespace DexterVault.Odometer

inductive Side
  | left
  | right
  deriving DecidableEq

def Side.other : Side → Side
  | .left => .right
  | .right => .left

@[ext]
structure Meters where
  left : ℕ
  right : ℕ
  deriving DecidableEq

structure Mark where
  side : Side
  amount : ℕ
  deriving DecidableEq

namespace Meters

def zero : Meters := ⟨0, 0⟩

def read (meters : Meters) : Side → ℕ
  | .left => meters.left
  | .right => meters.right

def frontier (meters : Meters) : ℕ := max meters.left meters.right

def advance (meters : Meters) (mark : Mark) : Meters :=
  match mark.side with
  | .left => { meters with left := mark.amount }
  | .right => { meters with right := mark.amount }

theorem read_le_frontier (meters : Meters) (side : Side) :
    meters.read side ≤ meters.frontier := by
  cases side
  · exact le_max_left _ _
  · exact le_max_right _ _

theorem read_advance (meters : Meters) (mark : Mark) (side : Side) :
    (meters.advance mark).read side =
      if side = mark.side then mark.amount else meters.read side := by
  obtain ⟨own, amount⟩ := mark
  cases own <;> cases side <;> rfl

/-- An accepted mark becomes the frontier. -/
theorem frontier_advance {meters : Meters} {mark : Mark}
    (habove : meters.frontier < mark.amount) :
    (meters.advance mark).frontier = mark.amount := by
  obtain ⟨side, amount⟩ := mark
  obtain ⟨hleft, hright⟩ := max_lt_iff.mp habove
  cases side
  · exact max_eq_left (le_of_lt hright)
  · exact max_eq_right (le_of_lt hleft)

theorem advance_sum (meters : Meters) (mark : Mark) :
    (meters.advance mark).left + (meters.advance mark).right =
      mark.amount + meters.read mark.side.other := by
  obtain ⟨side, amount⟩ := mark
  cases side
  · rfl
  · exact Nat.add_comm _ _

/-- What a mark pays: the distance from the meter of its side. -/
def payment (meters : Meters) (mark : Mark) : ℕ :=
  mark.amount - meters.read mark.side

theorem payment_add_sum {meters : Meters} {mark : Mark}
    (habove : meters.frontier < mark.amount) :
    meters.payment mark + (meters.left + meters.right) =
      (meters.advance mark).left + (meters.advance mark).right := by
  have hside := meters.read_le_frontier mark.side
  obtain ⟨side, amount⟩ := mark
  cases side <;> simp only [payment, read, advance] at hside habove ⊢ <;> omega

end Meters

/-! ## Histories, newest mark first -/

def metersAfter (start : Meters) : List Mark → Meters
  | [] => start
  | mark :: earlier => (metersAfter start earlier).advance mark

/-- Every mark was above the frontier when it came. -/
def Accepted (start : Meters) : List Mark → Prop
  | [] => True
  | mark :: earlier =>
      (metersAfter start earlier).frontier < mark.amount ∧
        Accepted start earlier

def totalPaid (start : Meters) : List Mark → ℕ
  | [] => 0
  | mark :: earlier =>
      (metersAfter start earlier).payment mark + totalPaid start earlier

/-- A mark of this side paid for this unit of the range. -/
def Covers (start : Meters) (side : Side) (point : ℕ) : List Mark → Prop
  | [] => False
  | mark :: earlier =>
      (mark.side = side ∧ (metersAfter start earlier).read side < point ∧
        point ≤ mark.amount) ∨ Covers start side point earlier

/-- Every mark came when the meter of the other side was still at zero. -/
def OneSided (start : Meters) : List Mark → Prop
  | [] => True
  | mark :: earlier =>
      (metersAfter start earlier).read mark.side.other = 0 ∧
        OneSided start earlier

def highest : List Mark → ℕ
  | [] => 0
  | mark :: earlier => max mark.amount (highest earlier)

section Histories

variable {start : Meters} {marks : List Mark}

/-- The payments are the distance the two meters have travelled. -/
theorem totalPaid_add_start (haccepted : Accepted start marks) :
    totalPaid start marks + (start.left + start.right) =
      (metersAfter start marks).left + (metersAfter start marks).right := by
  induction marks with
  | nil => simp [totalPaid, metersAfter]
  | cons mark earlier ih =>
      have hstep := Meters.payment_add_sum haccepted.1
      have hearlier := ih haccepted.2
      rw [totalPaid, metersAfter]
      omega

theorem totalPaid_zero (haccepted : Accepted Meters.zero marks) :
    totalPaid Meters.zero marks =
      (metersAfter Meters.zero marks).left +
        (metersAfter Meters.zero marks).right := by
  have hpaid := totalPaid_add_start haccepted
  simpa only [Meters.zero, Nat.add_zero] using hpaid

/-- From zero, a meter has moved exactly when a mark of its side was
accepted. -/
theorem read_pos_iff (haccepted : Accepted Meters.zero marks) (side : Side) :
    0 < (metersAfter Meters.zero marks).read side ↔
      ∃ mark ∈ marks, mark.side = side := by
  induction marks with
  | nil => cases side <;> simp [metersAfter, Meters.zero, Meters.read]
  | cons latest earlier ih =>
      rw [metersAfter, Meters.read_advance]
      split
      · next hside =>
          simp only [List.mem_cons, exists_eq_or_imp, hside, true_or, iff_true]
          exact lt_of_le_of_lt (Nat.zero_le _) haccepted.1
      · next hside =>
          rw [ih haccepted.2]
          simp [Ne.symm hside]

/-- From zero, the units a side has paid for are those up to its meter. -/
theorem covers_iff (haccepted : Accepted Meters.zero marks) (side : Side)
    (point : ℕ) :
    Covers Meters.zero side point marks ↔
      0 < point ∧ point ≤ (metersAfter Meters.zero marks).read side := by
  induction marks with
  | nil =>
      cases side <;> simp [Covers, metersAfter, Meters.zero, Meters.read] <;>
        omega
  | cons latest earlier ih =>
      have hbelow : (metersAfter Meters.zero earlier).read side < latest.amount :=
        lt_of_le_of_lt (Meters.read_le_frontier _ _) haccepted.1
      rw [Covers, ih haccepted.2, metersAfter, Meters.read_advance]
      split
      · next hside =>
          simp only [hside, true_and]
          rw [hside] at hbelow
          omega
      · next hside =>
          simp [Ne.symm hside]

theorem highest_le {bound : ℕ} (hbound : ∀ mark ∈ marks, mark.amount ≤ bound) :
    highest marks ≤ bound := by
  induction marks with
  | nil => exact Nat.zero_le _
  | cons mark earlier ih =>
      rw [List.forall_mem_cons] at hbound
      exact max_le hbound.1 (ih hbound.2)

/-- From zero, the highest accepted amount is the frontier. -/
theorem highest_eq_frontier (haccepted : Accepted Meters.zero marks) :
    highest marks = (metersAfter Meters.zero marks).frontier := by
  induction marks with
  | nil => rfl
  | cons latest earlier ih =>
      rw [highest, metersAfter, Meters.frontier_advance haccepted.1,
        ih haccepted.2]
      exact max_eq_left (le_of_lt haccepted.1)

/-- From zero, a history is one-sided exactly when it does not use both
sides. -/
theorem oneSided_iff (haccepted : Accepted Meters.zero marks) :
    OneSided Meters.zero marks ↔
      ¬ ((∃ mark ∈ marks, mark.side = .left) ∧
        ∃ mark ∈ marks, mark.side = .right) := by
  induction marks with
  | nil => simp [OneSided]
  | cons latest earlier ih =>
      have hleft := read_pos_iff haccepted.2 .left
      have hright := read_pos_iff haccepted.2 .right
      rw [OneSided, ih haccepted.2, ← Nat.le_zero, ← not_lt]
      obtain ⟨side, amount⟩ := latest
      cases side with
      | left =>
          simp only [Side.other, List.mem_cons, exists_eq_or_imp, reduceCtorEq,
            true_or, false_or, true_and, hright]
          exact and_iff_left_of_imp fun hnone hboth => hnone hboth.2
      | right =>
          simp only [Side.other, List.mem_cons, exists_eq_or_imp, reduceCtorEq,
            true_or, false_or, and_true, hleft]
          exact and_iff_left_of_imp fun hnone hboth => hnone hboth.1

/-- The two sides together stay within the frontier exactly when only one of
them was ever used. -/
theorem totalPaid_le_frontier_iff (haccepted : Accepted Meters.zero marks) :
    totalPaid Meters.zero marks ≤ (metersAfter Meters.zero marks).frontier ↔
      ¬ ((∃ mark ∈ marks, mark.side = .left) ∧
        ∃ mark ∈ marks, mark.side = .right) := by
  rw [totalPaid_zero haccepted, ← read_pos_iff haccepted .left,
    ← read_pos_iff haccepted .right, Meters.frontier]
  simp only [Meters.read]
  omega

/-- No unit is paid for on both sides exactly when only one side was ever
used. -/
theorem covers_disjoint_iff (haccepted : Accepted Meters.zero marks) :
    (∀ point, ¬ (Covers Meters.zero .left point marks ∧
        Covers Meters.zero .right point marks)) ↔
      ¬ ((∃ mark ∈ marks, mark.side = .left) ∧
        ∃ mark ∈ marks, mark.side = .right) := by
  simp only [covers_iff haccepted]
  rw [← read_pos_iff haccepted .left, ← read_pos_iff haccepted .right]
  constructor
  · intro hdisjoint hboth
    have hone := hdisjoint 1
    omega
  · intro hone point hboth
    omega

end Histories

end DexterVault.Odometer
