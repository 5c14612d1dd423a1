import Mathlib.Data.List.Basic

/-!
# Occurrences of a pattern in a text

A text is searched from the left.  Whether an occurrence begins in a front part
depends on what follows that part, so the judgment carries the rest of the text,
and a front part is taken apart with the rest extended accordingly.
-/

namespace DexterVault.Occurrence

variable {Symbol : Type*} {pattern front rest : List Symbol}

/-- No occurrence of the pattern in `front ++ rest` begins in `front`. -/
def Clear (pattern : List Symbol) : List Symbol → List Symbol → Prop
  | [], _ => True
  | symbol :: front, rest =>
      ¬ pattern <+: symbol :: (front ++ rest) ∧ Clear pattern front rest

theorem clear_cons {symbol : Symbol}
    (hfirst : ¬ pattern <+: symbol :: (front ++ rest))
    (hfront : Clear pattern front rest) : Clear pattern (symbol :: front) rest :=
  ⟨hfirst, hfront⟩

theorem Clear.append {left right : List Symbol}
    (hleft : Clear pattern left (right ++ rest))
    (hright : Clear pattern right rest) : Clear pattern (left ++ right) rest := by
  induction left with
  | nil => exact hright
  | cons symbol left ih =>
      obtain ⟨hfirst, hleft⟩ := hleft
      rw [← List.append_assoc] at hfirst
      exact clear_cons hfirst (ih hleft)

/-- An occurrence begins with the first symbol of the pattern. -/
theorem not_prefix_of_head_ne {head symbol : Symbol} {tail : List Symbol}
    (hne : symbol ≠ head) : ¬ head :: tail <+: symbol :: rest :=
  fun hmatch => hne (List.cons_prefix_cons.mp hmatch).1.symm

theorem clear_of_head_notMem {head : Symbol} {tail : List Symbol}
    (hhead : head ∉ front) : Clear (head :: tail) front rest := by
  induction front with
  | nil => trivial
  | cons symbol front ih =>
      have hne : symbol ≠ head := (List.ne_of_not_mem_cons hhead).symm
      exact clear_cons (not_prefix_of_head_ne hne)
        (ih (List.not_mem_of_not_mem_cons hhead))

/-- Two words without the delimiter that ends them are the same. -/
theorem eq_of_delimited_prefix {delimiter : Symbol} {left right : List Symbol}
    {tail : List Symbol} (hleft : delimiter ∉ left) (hright : delimiter ∉ right)
    (hmatch : left ++ delimiter :: tail <+: right ++ delimiter :: rest) :
    left = right := by
  induction left generalizing right with
  | nil =>
      cases right with
      | nil => rfl
      | cons symbol right =>
          have hsame := (List.cons_prefix_cons.mp hmatch).1
          exact absurd (hsame ▸ List.mem_cons_self) hright
  | cons symbol left ih =>
      cases right with
      | nil =>
          have hsame := (List.cons_prefix_cons.mp hmatch).1
          exact absurd (hsame ▸ List.mem_cons_self) hleft
      | cons other right =>
          obtain ⟨hsame, hrest⟩ := List.cons_prefix_cons.mp hmatch
          have htail : left = right :=
            ih (List.not_mem_of_not_mem_cons hleft)
              (List.not_mem_of_not_mem_cons hright) hrest
          rw [hsame, htail]

end DexterVault.Occurrence
