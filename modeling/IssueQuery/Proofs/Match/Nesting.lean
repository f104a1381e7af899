import IssueQuery.Proofs.Match.Bounds
import IssueQuery.Proofs.Text.Words

/-!
# Tests on texts are nested

The four tests on texts look at the same two labels and refuse the same values and operands, so they
are compared by what they ask of the labels.  What begins or ends with a text contains it, what
contains a text contains each word of it, and of a text that is searched for word by word nothing
matters but which words it has.
-/

namespace IssueQuery

/-- The words of a text, each in lower case. -/
def Text.lowerWords (s : String) : List (List Char) :=
  (words s.toList).map Case.lower

namespace Match

variable {actual operand : Value} {s : String} {test test' : List Char → List Char → Bool}

/-! ## Tests on labels -/

/-- What passes a test passes every test that asks for less. -/
theorem testLabels_mono (h : ∀ sought text, test sought text → test' sought text)
    (hpass : testLabels test actual operand) : testLabels test' actual operand := by
  rw [testLabels, Bool.and_eq_true] at hpass ⊢
  exact ⟨hpass.1, h _ _ hpass.2⟩

theorem contains_of_startsWith (h : startsWith actual operand) : contains actual operand := by
  refine testLabels_mono ?_ h
  intro sought text hbegins
  rw [Text.occursIn_iff]
  exact (List.isPrefixOf_iff_prefix.mp hbegins).isInfix

theorem contains_of_endsWith (h : endsWith actual operand) : contains actual operand := by
  refine testLabels_mono ?_ h
  intro sought text hends
  rw [Text.occursIn_iff]
  exact (List.isSuffixOf_iff_suffix.mp hends).isInfix

theorem hasWords_of_contains (h : contains actual operand) : hasWords actual operand := by
  refine testLabels_mono ?_ h
  intro sought text hoccurs
  rw [List.all_eq_true]
  intro word hword
  rw [Text.occursIn_iff] at hoccurs ⊢
  exact (Text.infix_of_mem_words hword).trans hoccurs

/-- A text that is not empty is searched for by its words in lower case. -/
theorem hasWords_string_iff (hs : s ≠ "") :
    hasWords actual (.string s) ↔ actual.isTruthy ∧
      ∀ word ∈ Text.lowerWords s, word <:+: actual.lowerLabel.toList := by
  have hoperand : isBlankOperand (.string s) = false := by
    simpa [isBlankOperand, String.isEmpty_iff] using hs
  have hwords : Text.words (Value.string s).lowerLabel.toList = Text.lowerWords s := by
    rw [Value.lowerLabel, Text.toList_lower, Text.words_lower]
    rfl
  rw [hasWords, testLabels, hoperand, hwords, Bool.and_eq_true, List.all_eq_true]
  simp only [Bool.not_false, Bool.and_true, Text.occursIn_iff]

end Match

namespace FilterClause

variable {now : Moment} {r : Record} {field : String} {relation : Relation} {operand : Value}
  {b : Bool}

/-! ## Verdicts -/

theorem verdict_eq_true_iff (h : Match.holds now r field relation operand = .ok b) :
    verdict ⟨field, relation.holds, operand⟩ now r = .ok true ↔ b := by
  rw [verdict_of_holds h, Except.ok.injEq]

/-- On every record, a field that begins or ends with an operand contains it, and one that contains
it has each of its words.  Two texts with the same words in lower case, neither of them empty, are
had by the same fields. -/
theorem textual_verdicts_nest (now : Moment) (r : Record) (field : String) (operand : Value) :
    (verdict ⟨field, Relation.startsWith.holds, operand⟩ now r = .ok true ∨
        verdict ⟨field, Relation.endsWith.holds, operand⟩ now r = .ok true →
      verdict ⟨field, Relation.contains.holds, operand⟩ now r = .ok true) ∧
    (verdict ⟨field, Relation.contains.holds, operand⟩ now r = .ok true →
      verdict ⟨field, Relation.fuzzy.holds, operand⟩ now r = .ok true) ∧
    ∀ s t : String, s ≠ "" → t ≠ "" →
      (∀ word, word ∈ Text.lowerWords s ↔ word ∈ Text.lowerWords t) →
        ∃ b, verdict ⟨field, Relation.fuzzy.holds, .string s⟩ now r = .ok b ∧
          verdict ⟨field, Relation.fuzzy.holds, .string t⟩ now r = .ok b := by
  have hcontains : Match.holds now r field .contains operand =
      .ok (Match.contains (r.resolve field) operand) := rfl
  have hfuzzy : ∀ v, Match.holds now r field .fuzzy v =
      .ok (Match.hasWords (r.resolve field) v) := fun _ => rfl
  rw [verdict_eq_true_iff hcontains, verdict_eq_true_iff (hfuzzy operand)]
  refine ⟨?_, Match.hasWords_of_contains, ?_⟩
  · rintro (hstarts | hends)
    · exact Match.contains_of_startsWith ((verdict_eq_true_iff rfl).mp hstarts)
    · exact Match.contains_of_endsWith ((verdict_eq_true_iff rfl).mp hends)
  · intro s t hs ht hwords
    have hsame : Match.hasWords (r.resolve field) (.string s) =
        Match.hasWords (r.resolve field) (.string t) := by
      rw [Bool.eq_iff_iff, Match.hasWords_string_iff hs, Match.hasWords_string_iff ht]
      simp only [hwords]
    refine ⟨_, verdict_of_holds (hfuzzy (.string s)), ?_⟩
    rw [verdict_of_holds (hfuzzy (.string t)), hsame]

/-- A list of tags is searched as one text, in which a word may begin anywhere. -/
theorem textual_verdicts_nest_tags :
    let r : Record := ⟨0, .object [("tags", .list [.string "Back end", .string "API"])]⟩
    let now : Moment := ⟨.first, .midnight, .utc⟩
    verdict ⟨"tags", Relation.startsWith.holds, .string "BACK END,a"⟩ now r = .ok true ∧
      verdict ⟨"tags", Relation.contains.holds, .string "BACK END,a"⟩ now r = .ok true ∧
      verdict ⟨"tags", Relation.fuzzy.holds, .string "BACK END,a"⟩ now r = .ok true ∧
      verdict ⟨"tags", Relation.fuzzy.holds, .string " end,A  back"⟩ now r = .ok true := by
  intro r now
  obtain ⟨hcontains, hfuzzy, hsame⟩ :=
    textual_verdicts_nest now r "tags" (.string "BACK END,a")
  have hstarts : verdict ⟨"tags", Relation.startsWith.holds, .string "BACK END,a"⟩ now r =
      .ok true := by
    decide +kernel
  have hwords : ∀ word, word ∈ Text.lowerWords "BACK END,a" ↔
      word ∈ Text.lowerWords " end,A  back" := by
    have hfirst : Text.lowerWords "BACK END,a" = ["back".toList, "end,a".toList] := by
      decide +kernel
    have hsecond : Text.lowerWords " end,A  back" = ["end,a".toList, "back".toList] := by
      decide +kernel
    intro word
    rw [hfirst, hsecond, List.mem_pair, List.mem_pair, or_comm]
  obtain ⟨b, hb, hb'⟩ := hsame "BACK END,a" " end,A  back" (by decide) (by decide) hwords
  have hfound := hfuzzy (hcontains (Or.inl hstarts))
  rw [hfound] at hb
  rw [← hb] at hb'
  exact ⟨hstarts, hcontains (Or.inl hstarts), hfound, hb'⟩

end FilterClause

end IssueQuery
