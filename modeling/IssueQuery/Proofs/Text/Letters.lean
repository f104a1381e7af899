import IssueQuery.Text.Case
import Mathlib

/-!
# ASCII letters

The library's `String.toLower` changes ASCII letters only.  The full lower case of a text goes
further, but takes no notice of this step in front of it: neither the letters themselves nor the
words in which a capital sigma looks for its neighbours depend on the case of ASCII letters.
-/

namespace IssueQuery

namespace Text

/-- What does not tell capital letters from small ones does not tell characters from their lower
case. -/
theorem apply_toLower {α : Type} (f : Char → α)
    (h : ∀ n < 26, f (Char.ofNat (97 + n)) = f (Char.ofNat (65 + n))) (c : Char) :
    f c.toLower = f c := by
  by_cases hupper : c.isUpper
  · have hrange : 65 ≤ c.toNat ∧ c.toNat ≤ 90 := by
      simpa [Char.isUpper, UInt32.le_iff_toNat_le] using hupper
    have hletters := h (c.toNat - 65) (by omega)
    rw [show 97 + (c.toNat - 65) = c.toNat + 32 by omega,
      show 65 + (c.toNat - 65) = c.toNat by omega, Char.ofNat_toNat] at hletters
    rw [Char.toLower_eq_of_isUpper hupper, hletters]
  · rw [Char.toLower_eq_of_not_isUpper hupper]

namespace Case

theorem role_toLower (c : Char) : role c.toLower = role c :=
  apply_toLower role (by decide +kernel) c

theorem lowerChar_toLower (c : Char) : lowerChar c.toLower = lowerChar c :=
  apply_toLower lowerChar (by decide +kernel) c

theorem casedAfter_toLower (casedBefore : Bool) (c : Char) :
    casedAfter casedBefore c.toLower = casedAfter casedBefore c := by
  rw [casedAfter, role_toLower, casedAfter]

theorem casedNext_map_toLower (cs : List Char) :
    casedNext (cs.map Char.toLower) = casedNext cs := by
  induction cs with
  | nil => rfl
  | cons c cs ih => rw [List.map_cons, casedNext, casedNext, role_toLower, ih]

theorem lowerIn_toLower (casedBefore : Bool) (c : Char) (rest : List Char) :
    lowerIn casedBefore c.toLower (rest.map Char.toLower) = lowerIn casedBefore c rest := by
  have hsigma : decide (c.toLower = 'Σ') = decide (c = 'Σ') :=
    apply_toLower (fun c => decide (c = 'Σ')) (by decide +kernel) c
  rw [lowerIn, lowerIn, casedNext_map_toLower, lowerChar_toLower]
  simp only [decide_eq_decide.mp hsigma]

theorem lowerFrom_map_toLower (casedBefore : Bool) (cs : List Char) :
    lowerFrom casedBefore (cs.map Char.toLower) = lowerFrom casedBefore cs := by
  induction cs generalizing casedBefore with
  | nil => rfl
  | cons c cs ih =>
      rw [List.map_cons, lowerFrom, lowerFrom, lowerIn_toLower, casedAfter_toLower, ih]

end Case

theorem toList_toLower (s : String) : s.toLower.toList = s.toList.map Char.toLower :=
  String.toList_map

theorem lower_toLower (s : String) : lower s.toLower = lower s := by
  apply String.toList_injective
  rw [toList_lower, toList_lower, toList_toLower]
  exact Case.lowerFrom_map_toLower false s.toList

theorem isEmpty_toLower (s : String) : s.toLower.isEmpty = s.isEmpty := by
  rw [Bool.eq_iff_iff, String.isEmpty_iff, String.isEmpty_iff, ← String.toList_eq_nil_iff,
    ← String.toList_eq_nil_iff, toList_toLower, List.map_eq_nil_iff]

theorem toLower_toLower (s : String) : s.toLower.toLower = s.toLower := by
  apply String.toList_injective
  rw [toList_toLower, toList_toLower, List.map_map]
  exact List.map_congr_left fun c _ => Char.toLower_toLower_eq_toLower c

theorem toLower_intercalate (separator : String) (parts : List String) :
    (separator.intercalate parts).toLower =
      separator.toLower.intercalate (parts.map String.toLower) := by
  apply String.toList_injective
  rw [toList_toLower, String.toList_intercalate, String.toList_intercalate, toList_toLower]
  induction parts with
  | nil => rfl
  | cons part parts ih =>
      cases parts with
      | nil =>
          rw [List.map_singleton, List.intercalate_singleton, List.map_singleton,
            List.map_singleton, List.intercalate_singleton, toList_toLower]
      | cons next parts =>
          simp only [List.map_cons, List.intercalate_cons_cons, List.map_append,
            toList_toLower] at ih ⊢
          rw [ih]

end Text

end IssueQuery
