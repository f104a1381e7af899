import IssueQuery.Proofs.Text.Order

/-!
# Collation by letters

The letters of a text are those of its characters, one after the other: marks only move among
themselves and are no letters.  Texts whose letters differ are collated by the first of them that
do.
-/

namespace IssueQuery.Text

namespace Decomposition

variable {k : Nat} {m : Char} {marks : List (Nat × Char)}

theorem mem_insertMark {x : Nat × Char} (hx : x ∈ insertMark k m marks) :
    x = (k, m) ∨ x ∈ marks := by
  induction marks with
  | nil => simpa [insertMark] using hx
  | cons mark marks ih =>
      rw [insertMark] at hx
      split at hx
      · simpa using hx
      · rcases List.mem_cons.mp hx with rfl | hx
        · simp
        · exact (ih hx).imp_right (List.mem_cons_of_mem _)

/-- Bringing marks into order leaves the base letters where they are. -/
theorem filter_orderMarks (hmarks : ∀ x ∈ marks, combiningClass x.2 ≠ 0) (cs : List Char) :
    (orderMarks marks cs).filter (combiningClass · = 0) = cs.filter (combiningClass · = 0) := by
  have hnone : ∀ marks : List (Nat × Char), (∀ x ∈ marks, combiningClass x.2 ≠ 0) →
      (marks.map (·.2)).filter (combiningClass · = 0) = [] := by
    intro marks hmarks
    rw [List.filter_eq_nil_iff]
    intro c hc
    obtain ⟨x, hx, rfl⟩ := List.mem_map.mp hc
    simpa using hmarks x hx
  induction cs generalizing marks with
  | nil => exact hnone marks hmarks
  | cons c cs ih =>
      rw [orderMarks]
      split
      · rename_i hc
        have hrest := @ih [] (by simp)
        simp [List.filter_append, hnone marks hmarks, hc, hrest]
      · rename_i k hc
        have hinserted : ∀ x ∈ insertMark (k + 1) c marks, combiningClass x.2 ≠ 0 := by
          intro x hx
          rcases mem_insertMark hx with rfl | hx
          · simp [hc]
          · exact hmarks x hx
        have hrest := ih hinserted
        simp [hc, hrest]

end Decomposition

/-! ## Letters -/

open Decomposition

/-- The folded letters of one character. -/
def lettersOf (c : Char) : List Char :=
  Case.fold ((parts c).filter (combiningClass · = 0))

theorem letters_collationKey (s : String) :
    (collationKey s).letters = s.toList.flatMap lettersOf := by
  rw [collationKey]
  dsimp only
  rw [decompose, filter_orderMarks (by simp), List.filter_flatMap, Case.fold, List.flatMap_assoc]
  rfl

/-- Characters of ASCII that are no capitals are letters by themselves. -/
theorem lettersOf_of_isAscii {c : Char} (h : Case.isAscii c) (hlower : c.toLower = c) :
    lettersOf c = [c] := by
  have hlt : c.toNat < 128 := by simpa [Case.isAscii] using h
  have hclass : combiningClass c = 0 := by
    rw [combiningClass, if_pos (by omega)]
  rw [lettersOf, parts, if_pos hlt, List.filter_cons, hclass]
  simp [Case.fold, Case.foldChar, h, hlower]

theorem compareChars_append_left (cs ds es : List Char) :
    compareChars (es ++ cs) (es ++ ds) = compareChars cs ds := by
  induction es with
  | nil => rfl
  | cons e es ih =>
      rw [List.cons_append, List.cons_append, compareChars, ih]
      simp

/-- Letters that differ decide the order of collation. -/
theorem CollationKey.compare_eq_lt {s t : String}
    (h : compareChars (s.toList.flatMap lettersOf) (t.toList.flatMap lettersOf) = .lt) :
    (collationKey s).compare (collationKey t) = .lt := by
  rw [CollationKey.compare, letters_collationKey, letters_collationKey, h]
  rfl

end IssueQuery.Text
