import Mathlib.Algebra.BigOperators.Group.Finset.Basic
import Mathlib.Algebra.Order.BigOperators.Group.Finset
import Mathlib.Data.Finmap
import Mathlib.Tactic.Common

/-!
# Sums over a keyed store

A counter kept in one record often has to equal a sum over an unbounded set of
other records.  This file gives such sums over a finite map and says how they
move when the records change at one key: the old weight there leaves the sum
and the new one enters it.
-/

namespace DexterVault.KeyedSum

variable {Key Value : Type*} [DecidableEq Key]

abbrev Store (Key Value : Type*) := Finmap fun _ : Key => Value

/-- The weight of the record at a key, zero where there is none. -/
def weightAt (weight : Value → ℕ) (store : Store Key Value) (key : Key) : ℕ :=
  (store.lookup key).elim 0 weight

def total (weight : Value → ℕ) (store : Store Key Value) : ℕ :=
  ∑ key ∈ store.keys, weightAt weight store key

section Sums

variable {weight : Value → ℕ} {store before after : Store Key Value} {key : Key}

theorem weightAt_eq_zero_of_notMem (hkey : key ∉ store.keys) :
    weightAt weight store key = 0 := by
  have hnone : store.lookup key = none :=
    Finmap.lookup_eq_none.mpr fun hmem => hkey (Finmap.mem_keys.mpr hmem)
  rw [weightAt, hnone, Option.elim_none]

/-- The sum may be taken over any larger set of keys. -/
theorem total_eq_sum_of_subset (weight : Value → ℕ) {keys : Finset Key}
    (hsubset : store.keys ⊆ keys) :
    total weight store = ∑ key ∈ keys, weightAt weight store key :=
  Finset.sum_subset hsubset fun _ _ hkey => weightAt_eq_zero_of_notMem hkey

/-- A change of the records at one key exchanges the old weight there for the
new one. -/
theorem total_exchange
    (hagree : ∀ other ≠ key,
      weightAt weight after other = weightAt weight before other) :
    total weight after + weightAt weight before key =
      total weight before + weightAt weight after key := by
  let keys := insert key (after.keys ∪ before.keys)
  have hkey : key ∈ keys := Finset.mem_insert_self _ _
  have hafter : total weight after = ∑ other ∈ keys, weightAt weight after other :=
    total_eq_sum_of_subset weight
      (Finset.subset_union_left.trans (Finset.subset_insert _ _))
  have hbefore : total weight before =
      ∑ other ∈ keys, weightAt weight before other :=
    total_eq_sum_of_subset weight
      (Finset.subset_union_right.trans (Finset.subset_insert _ _))
  have hrest : ∑ other ∈ keys.erase key, weightAt weight after other =
      ∑ other ∈ keys.erase key, weightAt weight before other :=
    Finset.sum_congr rfl fun other hother =>
      hagree other (Finset.ne_of_mem_erase hother)
  rw [hafter, hbefore, ← Finset.add_sum_erase keys _ hkey, hrest,
    ← Finset.add_sum_erase keys (weightAt weight before) hkey]
  omega

/-- Records that have the same weight at every key have the same sum. -/
theorem total_congr
    (hagree : ∀ key, weightAt weight after key = weightAt weight before key) :
    total weight after = total weight before := by
  have hafter : after.keys ⊆ after.keys ∪ before.keys := Finset.subset_union_left
  have hbefore : before.keys ⊆ after.keys ∪ before.keys :=
    Finset.subset_union_right
  rw [total_eq_sum_of_subset weight hafter,
    total_eq_sum_of_subset weight hbefore]
  exact Finset.sum_congr rfl fun key _ => hagree key

theorem weightAt_le_total (weight : Value → ℕ) (store : Store Key Value)
    (key : Key) : weightAt weight store key ≤ total weight store := by
  by_cases hkey : key ∈ store.keys
  · exact Finset.single_le_sum (fun _ _ => Nat.zero_le _) hkey
  · rw [weightAt_eq_zero_of_notMem hkey]
    exact Nat.zero_le _

theorem total_le_total {smaller : Value → ℕ}
    (hle : ∀ key, weightAt smaller store key ≤ weightAt weight store key) :
    total smaller store ≤ total weight store :=
  Finset.sum_le_sum fun key _ => hle key

theorem total_eq_zero (hzero : ∀ key, weightAt weight store key = 0) :
    total weight store = 0 :=
  Finset.sum_eq_zero fun key _ => hzero key

end Sums

end DexterVault.KeyedSum
