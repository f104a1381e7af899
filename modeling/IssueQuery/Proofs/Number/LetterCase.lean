import IssueQuery.Proofs.Number.ReadBack
import IssueQuery.Proofs.Text.Letters

/-!
# Letter case of numerals

No character becomes one of a numeral by being brought to lower case, the mark of an exponent aside.
So a text spells a number exactly if its lower case does, and the same one.
-/

namespace IssueQuery.Number

open Text Text.Case Text.Packed

variable {c : Char} {cs rest : List Char} {casedBefore : Bool} {s : String}

theorem isNumeralChar_of_toLower (h : IsNumeralChar c.toLower) : IsNumeralChar c := by
  have hdecimal : isDecimal c.toLower = isDecimal c := apply_toLower isDecimal (by decide +kernel) c
  have hmark : decide (c.toLower ∈ ['-', '+', '.', 'e', 'E']) =
      decide (c ∈ ['-', '+', '.', 'e', 'E']) :=
    apply_toLower (fun c => decide (c ∈ ['-', '+', '.', 'e', 'E'])) (by decide +kernel) c
  rwa [IsNumeralChar, hdecimal, decide_eq_decide.mp hmark] at h

/-- Ranges that hold all characters of numerals. -/
def numeralRanges : List (Nat × Nat) :=
  [(0x2B, 0x2E), (0x45, 0x45), (0x65, 0x65)] ++ zeros.map fun z => (z, z + 9)

theorem exists_numeralRange (h : IsNumeralChar c) : ∃ r ∈ numeralRanges, InRange c.toNat r := by
  rcases h with hdecimal | hmark
  · obtain ⟨z, hz, hrange⟩ := exists_zero_of_isDecimal hdecimal
    exact ⟨(z, z + 9), List.mem_append_right _ (List.mem_map_of_mem hz), hrange.1,
      Nat.le_of_lt_succ hrange.2⟩
  · have hmarks : ['-', '+', '.', 'e', 'E'].all fun c =>
        numeralRanges.any fun r => Nat.ble r.1 c.toNat && Nat.ble c.toNat r.2 := by
      decide +kernel
    have hrange := List.all_eq_true.mp hmarks c hmark
    simpa [InRange] using hrange

/-- The number of a character, as an entry that begins and ends with it. -/
def entryOf (c : Char) : List Nat :=
  [c.toNat, c.toNat]

theorem not_isNumeralChar_of_isApart (h : numeralRanges.all (isApart · (entryOf c))) :
    ¬IsNumeralChar c := by
  intro hc
  obtain ⟨r, hr, hrange⟩ := exists_numeralRange hc
  exact lt_irrefl _ (lt_of_isApart (List.all_eq_true.mp h r hr) hrange rfl rfl le_rfl)

/-- The case tables lead to no character of a numeral, and neither does the rule for the sigma. -/
theorem tables_apart_numerals :
    (∀ entry ∈ entries Table.lowerRuns,
      numeralRanges.all (isApart · [(images entry).1, (images entry).2])) ∧
    (∀ entry ∈ entries Table.lowerExpansions,
      numeralRanges.all (isApart · (entryOf (Char.ofNat ((entry.tailD []).headD 0))))) ∧
    ['ς', 'σ'].all fun c => numeralRanges.all (isApart · (entryOf c)) := by
  rw [Table.lowerRuns, Table.lowerExpansions]
  repeat rw [entries_cons]
  decide +kernel

/-- Only characters of numerals have a lower case that consists of such characters. -/
theorem isNumeralChar_of_lowerIn (h : ∀ d ∈ lowerIn casedBefore c rest, IsNumeralChar d) :
    IsNumeralChar c := by
  obtain ⟨hruns, hexpansions, hsigma⟩ := tables_apart_numerals
  have hsmall : ∀ d ∈ ['ς', 'σ'], ¬IsNumeralChar d := fun d hd =>
    not_isNumeralChar_of_isApart (List.all_eq_true.mp hsigma d hd)
  rw [lowerIn] at h
  split at h
  · split at h
    · exact absurd (h _ (List.mem_singleton_self _)) (hsmall _ (by decide))
    · exact absurd (h _ (List.mem_singleton_self _)) (hsmall _ (by decide))
  · rw [lowerChar] at h
    split at h
    · exact isNumeralChar_of_toLower (h _ (List.mem_singleton_self _))
    · rw [image] at h
      split at h
      · rename_i m hm
        refine absurd (h _ (List.mem_singleton_self _)) ?_
        exact not_ofNat_of_imageOf? (not_isNumeralChar_of_isApart (by decide))
          (fun _ => exists_numeralRange) hruns hm
      · split at h
        · rename_i ns hns
          obtain ⟨entry, hentry, rfl⟩ := exists_entry_of_find? hns
          obtain ⟨n, rest, hn⟩ := List.exists_cons_of_ne_nil (tables_apart.2.1 entry hentry).2.1
          have hfirst := hexpansions entry hentry
          rw [hn] at h hfirst
          exact absurd (h _ List.mem_cons_self) (not_isNumeralChar_of_isApart hfirst)
        · exact h c (List.mem_singleton_self c)

theorem isNumeralChar_of_lowerFrom (h : ∀ d ∈ lowerFrom casedBefore cs, IsNumeralChar d) :
    ∀ c ∈ cs, IsNumeralChar c := by
  induction cs generalizing casedBefore with
  | nil => exact fun c hc => absurd hc List.not_mem_nil
  | cons c cs ih =>
      rw [lowerFrom] at h
      intro d hd
      rcases List.mem_cons.mp hd with rfl | hd
      · exact isNumeralChar_of_lowerIn fun e he => h e (List.mem_append_left _ he)
      · exact ih (fun e he => h e (List.mem_append_right _ he)) d hd

/-- A text is a numeral exactly if its lower case is. -/
theorem Numeral.read?_lower (cs : List Char) :
    Numeral.read? (Case.lower cs) = Numeral.read? cs := by
  have hsame : (∀ c ∈ cs, IsNumeralChar c) →
      Numeral.read? (Case.lower cs) = Numeral.read? cs := by
    intro h
    rw [Case.lower, lowerFrom_eq_map h, Numeral.read?_map]
  cases hlower : Numeral.read? (Case.lower cs) with
  | some x =>
      rw [← hlower]
      exact hsame (isNumeralChar_of_lowerFrom fun d hd => Numeral.isNumeralChar_of_read? hlower hd)
  | none =>
      cases hread : Numeral.read? cs with
      | none => rfl
      | some x =>
          rw [← hlower, hsame fun c hc => Numeral.isNumeralChar_of_read? hread hc, hread]

theorem read?_trim (s : String) : read? (Text.trim s) = read? s := by
  rw [read?, read?, toList_trim, Iso.trimChars_trimChars]

/-- Letter case makes no difference to the number that a text spells. -/
theorem read?_lower_eq (s : String) : read? (Text.lower s) = read? s := by
  have htrim : trimChars (Text.lower s).toList = Case.lower (trimChars s.toList) := by
    rw [← toList_trim, ← lower_trim, toList_lower, toList_trim]
  rw [read?, read?, htrim, Numeral.read?_lower]

theorem read?_toLower (s : String) : read? s.toLower = read? s := by
  rw [← read?_lower_eq, lower_toLower, read?_lower_eq]

end IssueQuery.Number
