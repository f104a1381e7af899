import IssueQuery.Text.Collation
import Mathlib

/-!
# Texts in order

Characters are numbered, and texts are compared lexicographically by the numbers of their
characters; collation compares three such texts, one after the other.  Both are consistent orders.
-/

namespace IssueQuery.Text

open Std (TransCmp)

/-! ## Orders of other things -/

section Comap

variable {α β : Type} (cmp : α → α → Ordering) [h : TransCmp cmp]

/-- Things are in a consistent order by what they are sorted by. -/
theorem transCmp_comap (f : β → α) : TransCmp fun a b => cmp (f a) (f b) where
  eq_swap := h.eq_swap
  isLE_trans := h.isLE_trans

/-- An order read from its end is one too. -/
theorem transCmp_flip : TransCmp fun a b => cmp b a where
  eq_swap := h.eq_swap
  isLE_trans hab hbc := h.isLE_trans hbc hab

include h in
theorem ne_gt_trans {a b c : α} (hab : cmp a b ≠ .gt) (hbc : cmp b c ≠ .gt) : cmp a c ≠ .gt := by
  rw [ne_eq, ← Ordering.isLE_iff_ne_gt] at *
  exact h.isLE_trans hab hbc

end Comap

/-! ## Characters and collation -/

theorem compareChars_eq_compareLex (cs ds : List Char) :
    compareChars cs ds = List.compareLex (compareOn Char.toNat) cs ds := by
  induction cs generalizing ds with
  | nil => cases ds <;> rfl
  | cons c cs ih =>
      cases ds with
      | nil => rfl
      | cons d ds =>
          rw [compareChars, ih, List.compareLex_cons_cons]
          rfl

instance : TransCmp compareChars := by
  have h : compareChars = List.compareLex (compareOn Char.toNat) := by
    funext cs ds
    exact compareChars_eq_compareLex cs ds
  rw [h]
  infer_instance

instance : TransCmp CollationKey.compare := by
  have hletters := transCmp_comap compareChars CollationKey.letters
  have haccents := transCmp_comap compareChars CollationKey.accents
  have hcases := transCmp_comap compareChars CollationKey.cases
  exact inferInstanceAs <| TransCmp <|
    compareLex (fun a b : CollationKey => compareChars a.letters b.letters) <|
      compareLex (fun a b => compareChars a.accents b.accents)
        (fun a b => compareChars a.cases b.cases)

end IssueQuery.Text
