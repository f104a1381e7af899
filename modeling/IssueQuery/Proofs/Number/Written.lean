import IssueQuery.Number.Basic
import IssueQuery.Proofs.Text.Lower

/-!
# How numbers are written

The text of a number is one word of small letters, digits, points and signs.  So it is not changed
by bringing it to lower case, and blanks never part it.
-/

namespace IssueQuery

open Number

/-- The characters of written numbers, those of `nan` and `inf` among them. -/
def Number.isWritingChar (c : Char) : Bool :=
  c.isDigit || ['.', '+', '-', 'e', 'n', 'a', 'i', 'f'].contains c

namespace Double

variable {digits : List Char} {exponent : Int} {c : Char}

theorem isWritingChar_of_isDigit (h : c.isDigit) : isWritingChar c := by
  rw [isWritingChar, h, Bool.true_or]

theorem isDigit_of_mem_scientific {d : Decimal} (h : c ∈ d.scientific.1) : c.isDigit := by
  have hmem : c ∈ Nat.toDigits 10 d.digits := by
    rw [Decimal.scientific, List.mem_reverse] at h
    exact List.mem_reverse.mp ((List.dropWhile_sublist _).mem h)
  exact Nat.isDigit_of_mem_toDigits (by decide) (by decide) hmem

theorem isWritingChar_of_mem_exponentText (h : c ∈ exponentText exponent) : isWritingChar c := by
  have hdigits : ∀ d ∈ Nat.toDigits 10 exponent.natAbs, isWritingChar d := fun d hd =>
    isWritingChar_of_isDigit (Nat.isDigit_of_mem_toDigits (by decide) (by decide) hd)
  rw [exponentText, List.mem_cons, List.mem_cons] at h
  rcases h with rfl | rfl | h
  · decide
  · split <;> decide
  · split at h
    · rcases List.mem_cons.mp h with rfl | h
      · decide
      · exact hdigits c h
    · exact hdigits c h

theorem isWritingChar_of_mem_layout (hdigits : ∀ d ∈ digits, d.isDigit)
    (h : c ∈ layout digits exponent) : isWritingChar c := by
  have hdigit : ∀ d ∈ digits, isWritingChar d := fun d hd => isWritingChar_of_isDigit (hdigits d hd)
  have hzeros : ∀ n, ∀ d ∈ List.replicate n '0', isWritingChar d := by
    intro n d hd
    rw [List.eq_of_mem_replicate hd]
    decide
  have hpoint : isWritingChar '.' := by decide
  unfold layout at h
  dsimp only at h
  split at h
  · split at h
    · simp only [List.mem_append, List.mem_cons] at h
      rcases h with (rfl | rfl | h) | h
      · decide
      · exact hpoint
      · exact hzeros _ c h
      · exact hdigit c h
    · simp only [List.mem_append, List.mem_cons] at h
      rcases h with (h | h) | rfl | h
      · exact hdigit c (List.mem_of_mem_take h)
      · exact hzeros _ c h
      · exact hpoint
      · split at h
        · rw [List.mem_singleton.mp h]
          decide
        · exact hdigit c (List.mem_of_mem_drop h)
  · split at h
    · simp only [List.mem_append, List.mem_cons] at h
      rcases h with (rfl | rfl | rfl | h) | h
      · exact hdigit c (by simp)
      · exact hpoint
      · exact hdigit c (by simp)
      · exact hdigit c (by simp [h])
      · exact isWritingChar_of_mem_exponentText h
    · rcases List.mem_append.mp h with h | h
      · exact hdigit c h
      · exact isWritingChar_of_mem_exponentText h

theorem layout_ne_nil (digits : List Char) (exponent : Int) : layout digits exponent ≠ [] := by
  unfold layout
  dsimp only
  split
  · split
    · simp
    · simp
  · split
    · simp
    · simp [exponentText]

theorem isWritingChar_of_mem_positiveText {q : Rat} (h : c ∈ positiveText q) : isWritingChar c :=
  isWritingChar_of_mem_layout (fun _ hd => isDigit_of_mem_scientific hd) h

theorem text_spec (x : Double) :
    x.text.toList ≠ [] ∧ ∀ c ∈ x.text.toList, isWritingChar c := by
  have hnames : ∀ s ∈ ["nan", "inf", "-inf", "0.0", "-0.0"],
      s.toList ≠ [] ∧ ∀ c ∈ s.toList, isWritingChar c := by
    simp only [← List.all_eq_true]
    decide
  cases x with
  | nan => exact hnames _ (by simp [text])
  | infinity negative => cases negative <;> exact hnames _ (by simp [text])
  | negativeZero => exact hnames _ (by simp [text])
  | finite q =>
      rw [text]
      by_cases hzero : q = 0
      · rw [if_pos hzero]
        exact hnames _ (by simp)
      · rw [if_neg hzero]
        split
        · rw [String.toList_ofList]
          refine ⟨List.cons_ne_nil _ _, fun c hc => ?_⟩
          rcases List.mem_cons.mp hc with rfl | hc
          · decide
          · exact isWritingChar_of_mem_positiveText hc
        · rw [String.toList_ofList]
          exact ⟨layout_ne_nil _ _, fun c hc => isWritingChar_of_mem_positiveText hc⟩

end Double

namespace Number

theorem toList_toString_int (n : Int) :
    (toString n).toList = if n < 0 then '-' :: Nat.toDigits 10 n.natAbs
      else Nat.toDigits 10 n.natAbs := by
  rw [Int.toString_eq_repr, Int.repr_eq_if]
  by_cases hn : n < 0
  · rw [if_neg (by omega), if_pos hn, String.toList_append, Nat.toList_repr,
      show (-n).toNat = n.natAbs by omega]
    rfl
  · rw [if_pos (by omega), if_neg hn, Nat.toList_repr, show n.toNat = n.natAbs by omega]

theorem toString_int_spec (n : Int) :
    (toString n).toList ≠ [] ∧ ∀ c ∈ (toString n).toList, isWritingChar c := by
  have hdigits : ∀ c ∈ Nat.toDigits 10 n.natAbs, isWritingChar c := fun c hc =>
    Double.isWritingChar_of_isDigit (Nat.isDigit_of_mem_toDigits (by decide) (by decide) hc)
  rw [toList_toString_int]
  split
  · refine ⟨List.cons_ne_nil _ _, fun c hc => ?_⟩
    rcases List.mem_cons.mp hc with rfl | hc
    · decide
    · exact hdigits c hc
  · exact ⟨Nat.toDigits_ne_nil, hdigits⟩

/-- Every number is written, and with characters of numbers alone. -/
theorem plainText_spec (n : Number) :
    n.plainText.toList ≠ [] ∧ ∀ c ∈ n.plainText.toList, isWritingChar c := by
  cases n with
  | int n => exact toString_int_spec n
  | double x =>
      rw [plainText]
      split
      · exact toString_int_spec _
      · exact x.text_spec

theorem isAscii_of_isWritingChar {c : Char} (h : isWritingChar c) : Text.Case.isAscii c := by
  rw [isWritingChar, Bool.or_eq_true] at h
  rcases h with h | h
  · apply Text.Case.isAscii_of_isAlphanum
    rw [Char.isAlphanum, h, Bool.or_true]
  · have hall : ['.', '+', '-', 'e', 'n', 'a', 'i', 'f'].all Text.Case.isAscii := by decide
    exact List.all_eq_true.mp hall c (List.contains_iff_mem.mp h)

theorem spec_of_isWritingChar {c : Char} (h : isWritingChar c) :
    c.toLower = c ∧ Text.isBlank c = false :=
  Text.Case.forall_isAscii
    (p := fun c => isWritingChar c → c.toLower = c ∧ Text.isBlank c = false) (by decide +kernel)
    (isAscii_of_isWritingChar h) h

theorem lower_of_isWritingChar {s : String} (h : ∀ c ∈ s.toList, isWritingChar c) :
    Text.lower s = s := by
  have hchars : ∀ c ∈ s.toList, Text.Case.isAscii c ∧ c.toLower = c := fun c hc =>
    ⟨isAscii_of_isWritingChar (h c hc), (spec_of_isWritingChar (h c hc)).1⟩
  rw [Text.lower, Text.Case.lower, Text.Case.lowerFrom_eq_self hchars, String.ofList_toList]

/-- Letter case makes no difference to a number. -/
theorem lower_plainText (n : Number) : Text.lower n.plainText = n.plainText :=
  lower_of_isWritingChar n.plainText_spec.2

end Number

end IssueQuery
