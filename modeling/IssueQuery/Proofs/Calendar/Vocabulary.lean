import IssueQuery.Proofs.Calendar.Period

/-!
# The vocabulary of time keywords

A time keyword is recognised by its spelling alone, and read to be resolved.  The two are written
separately: one tests six words and a pattern in which letters may be small or capital, the other
looks a word up and knows small letters only.  The vocabulary that is described here is what both
accept.
-/

namespace IssueQuery

namespace TimeKeyword

variable {s : String} {k : TimeKeyword} {amount : List Char} {letter : Char}

/-! ## The vocabulary -/

/-- A text is a run of decimal digits of any script and the letter of a unit, small or capital. -/
structure IsRelative (cs amount : List Char) (letter : Char) : Prop where
  split : cs = amount ++ [letter]
  ne_nil : amount ≠ []
  decimal : ∀ c ∈ amount, Text.isDecimal c
  unit : letter.toLower ∈ ['h', 'd', 'w', 'm', 'y']

/-- A text in lower case, without the blanks at its ends, is one of the words or a relative time. -/
def InVocabulary (s : String) : Prop :=
  Text.lower (Text.trim s) ∈ words ∨
    ∃ amount letter, IsRelative (Text.lower (Text.trim s)).toList amount letter

theorem words_eq : words = named.map Prod.fst := rfl

theorem exists_read?_of_mem_words (h : Text.lower (Text.trim s) ∈ words) :
    ∃ k, read? s = some k := by
  rw [words_eq] at h
  obtain ⟨⟨word, k⟩, hnamed, hword⟩ := List.mem_map.mp h
  obtain rfl : word = Text.lower (Text.trim s) := hword
  exact ⟨k, read?_of_spells (.name hnamed)⟩

/-- The letter of a relative time is small in lower case, so it is the letter of a unit. -/
theorem exists_unit_of_isRelative
    (h : IsRelative (Text.lower (Text.trim s)).toList amount letter) :
    ∃ unit, TimeUnit.ofChar? letter = some unit := by
  have hletter : letter ∈ Text.Case.lowerFrom false (Text.trim s).toList := by
    rw [← Text.Case.lower, ← Text.toList_lower, h.split]
    exact List.mem_append_right _ (List.mem_singleton_self letter)
  -- The pattern would take a capital, but the table of units would not know it.
  have hcapital : ¬letter.isUpper := by
    rw [Text.Case.isUpper_of_mem_lowerFrom hletter]
    exact Bool.false_ne_true
  have hsmall : letter.toLower = letter := Char.toLower_eq_of_not_isUpper hcapital
  have hunit := h.unit
  rw [hsmall] at hunit
  have hunits : ['h', 'd', 'w', 'm', 'y'].all fun c => (TimeUnit.ofChar? c).isSome := by decide
  exact Option.isSome_iff_exists.mp (List.all_eq_true.mp hunits letter hunit)

theorem read?_of_isRelative (h : IsRelative (Text.lower (Text.trim s)).toList amount letter) :
    ∃ unit, TimeUnit.ofChar? letter = some unit ∧
      read? s = some (.ago (Text.decimalValue amount) unit) := by
  obtain ⟨unit, hunit⟩ := exists_unit_of_isRelative h
  exact ⟨unit, hunit, read?_of_lower_eq h.split h.ne_nil h.decimal hunit⟩

theorem inVocabulary_of_read? (h : read? s = some k) : InVocabulary s := by
  rcases mem_named_or_readAgo? h with hnamed | hago
  · left
    rw [words_eq]
    exact List.mem_map.mpr ⟨_, hnamed, rfl⟩
  · rw [← Text.toList_trim, ← Text.toList_lower] at hago
    obtain ⟨amount, letter, hsplit, hne, hdecimal, hunit⟩ := exists_amount_of_readAgo? hago
    have hsmall : ['h', 'd', 'w', 'm', 'y'].all fun c => c.toLower = c := by decide
    have hletter := List.all_eq_true.mp hsmall letter (mem_unitChars hunit)
    refine Or.inr ⟨amount, letter, hsplit, hne, hdecimal, ?_⟩
    rw [of_decide_eq_true hletter]
    exact mem_unitChars hunit

/-- The texts of the vocabulary are those that are read as keywords. -/
theorem inVocabulary_iff (s : String) : InVocabulary s ↔ ∃ k, read? s = some k := by
  constructor
  · rintro (hword | ⟨amount, letter, hrelative⟩)
    · exact exists_read?_of_mem_words hword
    · obtain ⟨unit, -, hread⟩ := read?_of_isRelative hrelative
      exact ⟨_, hread⟩
  · rintro ⟨k, hread⟩
    exact inVocabulary_of_read? hread

/-- No digit of any script is the letter of a unit. -/
theorem not_isDecimal_of_unit (h : letter.toLower ∈ ['h', 'd', 'w', 'm', 'y']) :
    Text.isDecimal letter = false := by
  rw [Bool.eq_false_iff]
  intro hdecimal
  exact Text.forall_isDecimal (p := fun c => c.toLower ∉ ['h', 'd', 'w', 'm', 'y'])
    (by decide +kernel) hdecimal h

theorem isAgo_iff {cs : List Char} : isAgo cs ↔ ∃ amount letter, IsRelative cs amount letter := by
  constructor
  · intro h
    unfold isAgo at h
    split at h
    · rename_i first more letter hamount hletter
      refine ⟨first :: more, letter, ?_, List.cons_ne_nil first more, ?_,
        List.contains_iff_mem.mp h⟩
      · rw [← hamount, ← hletter, List.takeWhile_append_dropWhile]
      · intro c hc
        rw [← hamount] at hc
        exact List.mem_takeWhile_imp hc
    · cases h
  · rintro ⟨amount, letter, rfl, hne, hdecimal, hunit⟩
    have hletter := not_isDecimal_of_unit hunit
    obtain ⟨first, more, rfl⟩ := List.exists_cons_of_ne_nil hne
    have htake : (first :: more ++ [letter]).takeWhile Text.isDecimal = first :: more := by
      rw [List.takeWhile_append_of_pos hdecimal, List.takeWhile_cons, hletter]
      exact List.append_nil _
    have hdrop : (first :: more ++ [letter]).dropWhile Text.isDecimal = [letter] := by
      rw [List.dropWhile_append_of_pos hdecimal, List.dropWhile_cons, hletter]
      rfl
    unfold isAgo
    rw [htake, hdrop]
    exact List.contains_iff_mem.mpr hunit

theorem recognises_iff (s : String) : recognises s ↔ InVocabulary s := by
  rw [recognises, Bool.or_eq_true, List.contains_iff_mem, isAgo_iff, InVocabulary]

/-- A text is recognised just if it can be read. -/
theorem recognises_eq (s : String) : recognises s = (read? s).isSome := by
  rw [Bool.eq_iff_iff, recognises_iff, inVocabulary_iff, Option.isSome_iff_exists]

end TimeKeyword

end IssueQuery
