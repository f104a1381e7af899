import IssueQuery.Text.Case

/-!
# Capitals of one character

A character may have capitals of more than one character, such as `SS` or `FFI`.  In the table of
these there is always one beyond ASCII, an `F` or an `S`.  So where none of these turns up in the
capitals of a text, each character has one capital.
-/

namespace IssueQuery.Text

namespace Packed

theorem lt_of_searchLast {keys : Array Nat} {n lo hi i : Nat}
    (h : searchLast keys n lo hi = some i) : i < hi := by
  induction lo, hi using searchLast.induct keys n with
  | case1 lo hi hlt mid hkey ih =>
      rw [searchLast, dif_pos hlt] at h
      dsimp only at h
      rw [if_pos hkey] at h
      rcases Option.or_eq_some_iff.mp h with hfound | ⟨-, hmid⟩
      · exact ih hfound
      · obtain rfl := Option.some.inj hmid
        omega
  | case2 lo hi hlt mid hkey ih =>
      rw [searchLast, dif_pos hlt] at h
      dsimp only at h
      rw [if_neg hkey] at h
      have hmid := ih h
      omega
  | case3 lo hi hlt =>
      rw [searchLast, dif_neg hlt] at h
      cases h

/-- What is found stands behind the first number of an entry. -/
theorem exists_entry_of_find? {rows : List String} {n : Nat} {rest : List Nat}
    (h : (Index.ofRows rows).find? n = some rest) :
    ∃ entry ∈ entries rows, entry.tailD [] = rest := by
  unfold Index.find? at h
  split at h
  · rename_i first rest' hbelow
    obtain ⟨i, hi, hfound⟩ := Option.map_eq_some_iff.mp hbelow
    have hlength : i < (entries rows).length := by
      have hkeys := lt_of_searchLast hi
      simpa [Index.ofRows] using hkeys
    have hrest : rest' = ((entries rows)[i]).tailD [] := by
      rw [← (Prod.mk.inj hfound).2]
      simp [Index.ofRows, hlength]
    split at h
    · obtain rfl := Option.some.inj h
      exact ⟨_, List.getElem_mem hlength, hrest.symm⟩
    · cases h
  · cases h

theorem entries_cons (cs : List Char) (rows : List String) :
    entries (String.ofList cs :: rows) = (cs.splitOn ' ').map numbers ++ entries rows := by
  simp [entries]

end Packed

namespace Case

open Packed

/-- No character with several capitals has this one among them only. -/
def isLoneCapital (c : Char) : Bool :=
  isAscii c && c ≠ 'F' && c ≠ 'S'

theorem exists_not_isLoneCapital :
    (entries Table.upperExpansions).all fun entry =>
      (entry.tailD []).any fun n => !isLoneCapital (Char.ofNat n) := by
  rw [Table.upperExpansions]
  repeat rw [entries_cons]
  decide +kernel

/-- The images of a character are one character or stand in an entry. -/
theorem image_cases (runs : Index) (rows : List String) (c : Char) :
    (∃ d, image runs (.ofRows rows) c = [d]) ∨
      ∃ entry ∈ entries rows, image runs (.ofRows rows) c = (entry.tailD []).map Char.ofNat := by
  unfold image
  split
  · exact Or.inl ⟨_, rfl⟩
  · split
    · rename_i ns hfound
      obtain ⟨entry, hentry, rfl⟩ := exists_entry_of_find? hfound
      exact Or.inr ⟨entry, hentry, rfl⟩
    · exact Or.inl ⟨_, rfl⟩

theorem upperChar_cases (c : Char) :
    (∃ d, upperChar c = [d]) ∨ ∃ d ∈ upperChar c, isLoneCapital d = false := by
  unfold upperChar
  by_cases hascii : isAscii c
  · rw [if_pos hascii]
    exact Or.inl ⟨_, rfl⟩
  · rw [if_neg hascii, upperExpansions]
    rcases image_cases upperRuns Table.upperExpansions c with hone | ⟨entry, hentry, himage⟩
    · exact Or.inl hone
    · have hentries := List.all_eq_true.mp exists_not_isLoneCapital entry hentry
      obtain ⟨n, hn, hlone⟩ := List.any_eq_true.mp hentries
      rw [himage]
      exact Or.inr ⟨Char.ofNat n, List.mem_map_of_mem hn, by simpa using hlone⟩

theorem length_upper {cs : List Char} (h : ∀ d ∈ upper cs, isLoneCapital d) :
    (upper cs).length = cs.length := by
  induction cs with
  | nil => rfl
  | cons c cs ih =>
      have hcapitals : upper (c :: cs) = upperChar c ++ upper cs := List.flatMap_cons
      rw [hcapitals] at h ⊢
      rcases upperChar_cases c with ⟨d, hd⟩ | ⟨d, hd, hlone⟩
      · rw [hd, List.length_append, ih fun d hd => h d (List.mem_append_right _ hd),
          List.length_singleton, List.length_cons, Nat.add_comm]
      · rw [h d (List.mem_append_left _ hd)] at hlone
        cases hlone

end Case

end IssueQuery.Text
