import IssueQuery.Proofs.Text.Lower

/-!
# Words of texts

A text is put together from words and the blanks that part them, and each of its words stands
somewhere in it.  Lower case leaves blanks alone and looks for the neighbours of a capital sigma
only within its word, so the words of a text in lower case are its words, each in lower case.
-/

namespace IssueQuery.Text

variable {part cs : List Char} {b : Char}

/-! ## Parts of a text -/

theorem occursIn_iff : occursIn part cs ↔ part <:+: cs := by
  induction cs with
  | nil => rw [occursIn, List.isEmpty_iff, List.infix_nil]
  | cons c cs ih =>
      rw [occursIn, Bool.or_eq_true, ih, List.isPrefixOf_iff_prefix, List.infix_cons_iff]

theorem occursIn_eq_decide (part cs : List Char) : occursIn part cs = decide (part <:+: cs) := by
  rw [Bool.eq_iff_iff, occursIn_iff, decide_eq_true_iff]

theorem isPrefixOf_eq_decide (part cs : List Char) :
    part.isPrefixOf cs = decide (part <+: cs) := by
  rw [Bool.eq_iff_iff, List.isPrefixOf_iff_prefix, decide_eq_true_iff]

theorem isSuffixOf_eq_decide (part cs : List Char) :
    part.isSuffixOf cs = decide (part <:+ cs) := by
  rw [Bool.eq_iff_iff, List.isSuffixOf_iff_suffix, decide_eq_true_iff]

/-! ## Cutting at blanks -/

@[simp]
theorem words_nil : words [] = [] := by
  simp [words]

/-- A text without blanks is one word. -/
theorem words_of_not_isBlank (hne : cs ≠ []) (h : ∀ c ∈ cs, isBlank c = false) :
    words cs = [cs] := by
  rw [words, List.splitOnP_eq_singleton h, List.filter_cons_of_pos (by simpa using hne),
    List.filter_nil]

/-- A blank parts the words before it from those behind it. -/
theorem words_append_of_isBlank (hb : isBlank b) (xs ys : List Char) :
    words (xs ++ b :: ys) = words xs ++ words ys := by
  rw [words, List.splitOnP_append_cons xs ys hb, List.filter_append]
  rfl

/-- What holds of texts without blanks, and of a text with such a one and a blank in front, holds of
all texts. -/
@[elab_as_elim]
theorem induction_on_words {motive : List Char → Prop} (cs : List Char)
    (last : ∀ w, (∀ c ∈ w, isBlank c = false) → motive w)
    (append : ∀ w b rest, (∀ c ∈ w, isBlank c = false) → isBlank b → motive rest →
      motive (w ++ b :: rest)) : motive cs := by
  have hword : ∀ c ∈ cs.takeWhile (!isBlank ·), isBlank c = false := by
    intro c hc
    simpa using List.mem_takeWhile_imp hc
  have hsplit : cs.takeWhile (!isBlank ·) ++ cs.dropWhile (!isBlank ·) = cs :=
    List.takeWhile_append_dropWhile
  cases hbehind : cs.dropWhile (!isBlank ·) with
  | nil =>
      rw [hbehind, List.append_nil] at hsplit
      rw [hsplit] at hword
      exact last cs hword
  | cons b rest =>
      have hb : isBlank b := by
        have hstop := List.head?_dropWhile_not (!isBlank ·) cs
        rw [hbehind] at hstop
        simpa using hstop
      have hshorter : rest.length < cs.length := by
        rw [← hsplit, hbehind, List.length_append, List.length_cons]
        omega
      rw [← hsplit, hbehind]
      exact append _ b rest hword hb (induction_on_words rest last append)
termination_by cs.length

/-- A word stands somewhere in its text. -/
theorem infix_of_mem_words (h : part ∈ words cs) : part <:+: cs := by
  induction cs using induction_on_words with
  | last w hw =>
      by_cases hne : w = []
      · rw [hne, words_nil] at h
        cases h
      · rw [words_of_not_isBlank hne hw, List.mem_singleton] at h
        rw [h]
  | append w b rest hw hb ih =>
      rw [words_append_of_isBlank hb, List.mem_append] at h
      rcases h with h | h
      · by_cases hne : w = []
        · rw [hne, words_nil] at h
          cases h
        · rw [words_of_not_isBlank hne hw, List.mem_singleton] at h
          rw [h]
          exact (List.prefix_append w (b :: rest)).isInfix
      · have hrest : rest <:+ w ++ b :: rest := ⟨w ++ [b], by simp⟩
        exact (ih h).trans hrest.isInfix

/-! ## Lower case -/

namespace Case

/-- A blank ends the search for a cased neighbour. -/
theorem casedNext_append_of_isBlank (hb : isBlank b) (w rest : List Char) :
    casedNext (w ++ b :: rest) = casedNext w := by
  induction w with
  | nil =>
      rw [List.nil_append, casedNext, casedNext, role_of_isBlank hb]
  | cons c w ih => rw [List.cons_append, casedNext, casedNext, ih]

/-- Behind a blank, lower case begins anew. -/
theorem lowerFrom_append_of_isBlank (hb : isBlank b) (casedBefore : Bool) (w rest : List Char) :
    lowerFrom casedBefore (w ++ b :: rest) = lowerFrom casedBefore w ++ b :: lower rest := by
  induction w generalizing casedBefore with
  | nil =>
      rw [List.nil_append, lowerFrom, lowerFrom, lowerIn_of_isBlank hb, casedAfter,
        role_of_isBlank hb]
      rfl
  | cons c w ih =>
      have hcontext : lowerIn casedBefore c (w ++ b :: rest) = lowerIn casedBefore c w := by
        rw [lowerIn, lowerIn, casedNext_append_of_isBlank hb]
      rw [List.cons_append, lowerFrom, lowerFrom, ih, hcontext, List.append_assoc]

theorem words_lower_of_not_isBlank (h : ∀ c ∈ cs, isBlank c = false) :
    words (lower cs) = (words cs).map lower := by
  by_cases hne : cs = []
  · rw [hne, lower, lowerFrom]
    simp
  · have hlower : lower cs ≠ [] := by
      rw [lower, Ne, lowerFrom_eq_nil_iff]
      exact hne
    rw [words_of_not_isBlank hne h, words_of_not_isBlank hlower (not_isBlank_lowerFrom h false),
      List.map_singleton]

end Case

/-- The words of a text in lower case are its words, each in lower case. -/
theorem words_lower (cs : List Char) : words (Case.lower cs) = (words cs).map Case.lower := by
  induction cs using induction_on_words with
  | last w hw => exact Case.words_lower_of_not_isBlank hw
  | append w b rest hw hb ih =>
      have hlower : Case.lower (w ++ b :: rest) = Case.lower w ++ b :: Case.lower rest :=
        Case.lowerFrom_append_of_isBlank hb false w rest
      rw [hlower, words_append_of_isBlank hb, words_append_of_isBlank hb, List.map_append, ih,
        Case.words_lower_of_not_isBlank hw]

end IssueQuery.Text
