import IssueQuery.Proofs.Calendar.Written
import IssueQuery.Proofs.Match.SameDay
import IssueQuery.Proofs.Number.ReadBack
import IssueQuery.Proofs.Query.WellFormed

/-!
# Values of the same label

Membership compares labels, equality first asks whether both values are numbers or moments.  The two
agree on values of the same label, letter case aside: a text that spells a number is compared as the
number whose text it is, and no keyword has the label of a date.
-/

namespace IssueQuery

open Outcome Text

/-! ## Texts of dates -/

namespace Date

theorem lower_isoText (d : Date) : Text.lower d.isoText = d.isoText := by
  apply Number.lower_of_isWritingChar
  intro c hc
  rw [isoText, String.toList_ofList] at hc
  rcases isDigit_or_hyphen_of_mem_isoChars hc with hdigit | rfl
  · exact Double.isWritingChar_of_isDigit hdigit
  · decide

/-- No number is written as a date. -/
theorem isoText_ne_plainText (d : Date) {n : Number} (hn : n.FitsDouble) :
    d.isoText ≠ n.plainText := by
  intro h
  have hchars : n.plainText.toList = d.isoChars := by
    rw [← h, isoText, String.toList_ofList]
  rcases Number.exists_numeral_plainText hn with ⟨x, hx, hwritten, -⟩ | ⟨x, rfl, hx⟩
  · have hread := Number.Numeral.read?_written hx
    rw [hwritten, hchars, read?_isoChars] at hread
    cases hread
  · have hwords : ∀ x ∈ [.nan, .infinity true, .infinity false],
        'n' ∈ (Number.plainText (.double x)).toList := by decide
    have hletter : 'n' ∈ d.isoChars := hchars ▸ hwords x (Number.mem_of_not_finite hx)
    exact absurd (isDigit_or_hyphen_of_mem_isoChars hletter) (by decide)

end Date

namespace Match

variable {now : Moment} {actual expected x v : Value} {m n : Number} {s : String}

/-! ## Equality of single values -/

/-- Single values are compared by their labels or as numbers unless a date meets a keyword. -/
theorem equalsOne_eq_sameValue
    (h : ∀ k, keyword? expected = some k → writtenMoment? actual = none) :
    equalsOne now expected actual = .ok (sameValue actual expected) := by
  unfold equalsOne
  split
  · rename_i k m hk hm
    rw [h k hk] at hm
    cases hm
  · rfl

theorem equalsAny_singleton (now : Moment) (expected actual : Value) :
    equalsAny now expected [actual] = equals now expected actual := by
  rw [equalsAny]
  cases equals now expected actual with
  | error e => rfl
  | ok b => cases b <;> rw [equalsAny] <;> rfl

theorem toNumber?_string (s : String) : Value.toNumber? (.string s) = Number.read? s := by
  rw [Value.toNumber?]

theorem toNumber?_number (h : n ≠ .double .nan) : Value.toNumber? (.number n) = some n := by
  cases n with
  | int n => rfl
  | double x =>
      cases x with
      | nan => exact absurd rfl h
      | _ => rfl

theorem sameValue_of_numbers (hm : actual.toNumber? = some m) (hn : expected.toNumber? = some n) :
    sameValue actual expected = m.same n := by
  rw [sameValue, hm, hn]

theorem sameValue_of_labels (hnumber : actual.toNumber? = none ∨ expected.toNumber? = none)
    (hstring : isString actual || isString expected) :
    sameValue actual expected = (plainLabel actual == plainLabel expected) := by
  unfold sameValue
  split
  · rename_i hm hn
    rcases hnumber with h | h
    · rw [h] at hm
      cases hm
    · rw [h] at hn
      cases hn
  · rw [if_pos hstring]

/-! ## Values of the same label -/

theorem plainLabel_eq_trim (v : Value) : plainLabel v = Text.trim v.lowerLabel :=
  Text.lower_trim v.label

/-- A text and another value of the same label are the same unless both are compared as numbers. -/
theorem sameValue_of_lowerLabel (hlabel : x.lowerLabel = v.lowerLabel)
    (hstring : isString x || isString v)
    (hnumbers : ∀ m n, x.toNumber? = some m → v.toNumber? = some n → m.same n) :
    sameValue x v := by
  cases hm : x.toNumber? with
  | none =>
      rw [sameValue_of_labels (Or.inl hm) hstring, plainLabel_eq_trim, plainLabel_eq_trim, hlabel,
        beq_self_eq_true]
  | some m =>
      cases hn : v.toNumber? with
      | none =>
          rw [sameValue_of_labels (Or.inr hn) hstring, plainLabel_eq_trim, plainLabel_eq_trim,
            hlabel, beq_self_eq_true]
      | some n =>
          rw [sameValue_of_numbers hm hn]
          exact hnumbers m n hm hn

theorem lowerLabel_number (n : Number) : (Value.number n).lowerLabel = n.plainText :=
  n.lower_plainText

/-- The label of a number has no other characters than numbers have. -/
theorem isWritingChar_of_mem_label (hlabel : x.lowerLabel = n.plainText) {c : Char}
    (hc : c ∈ x.label.toList) (hascii : Case.isAscii c) : Number.isWritingChar c.toLower := by
  apply n.plainText_spec.2
  rw [← hlabel, Value.lowerLabel, toList_lower]
  exact Case.mem_lowerFrom false hc hascii

/-- A single value with the label of a number is a text or a number. -/
theorem string_or_number_of_lowerLabel (hn : n.FitsDouble) (hlabel : x.lowerLabel = n.plainText)
    (hnull : x ≠ .null) (hlist : ∀ items, x ≠ .list items) :
    (∃ s, x = .string s) ∨ ∃ m, x = .number m := by
  have hchar : ∀ c, c ∈ x.label.toList → Case.isAscii c → Number.isWritingChar c.toLower :=
    fun _ => isWritingChar_of_mem_label hlabel
  cases x with
  | null => exact absurd rfl hnull
  | list items => exact absurd rfl (hlist items)
  | string s => exact Or.inl ⟨s, rfl⟩
  | number m => exact Or.inr ⟨m, rfl⟩
  | bool b =>
      cases b with
      | true => exact absurd (hchar 't' (by decide) (by decide)) (by decide)
      | false => exact absurd (hchar 'l' (by decide) (by decide)) (by decide)
  | object fields =>
      have hbrace : '\x7b' ∈ (Value.object fields).label.toList := by
        simp [Value.label, Value.inner]
      exact absurd (hchar _ hbrace (by decide)) (by decide)
  | dateTime t =>
      have hletter : 'T' ∈ (Value.dateTime t).label.toList := by
        simp [Value.label, DateTime.isoText, DateTime.charsWith]
      exact absurd (hchar _ hletter (by decide)) (by decide)
  | date d =>
      have htext : d.isoText = n.plainText := by
        rw [← hlabel, Value.lowerLabel, Value.label, Date.lower_isoText]
      exact absurd htext (d.isoText_ne_plainText hn)

theorem eq_of_toNumber?_number (h : Value.toNumber? (.number n) = some m) : n = m := by
  by_cases hnan : n = .double .nan
  · rw [hnan] at h
    cases h
  · exact Option.some.inj ((toNumber?_number hnan).symm.trans h)

/-- A text and a number of the same label stand for the same number, if the text spells one. -/
theorem same_of_lower_eq (hn : n.FitsDouble) (hlabel : Text.lower s = n.plainText)
    (hm : Number.read? s = some m) (hnan : n ≠ .double .nan) : m.same n ∧ n.same m := by
  have hpoint := Number.point?_of_read? hn (hlabel ▸ Number.read?_lower hm)
  exact ⟨Number.same_of_point?_eq hnan hpoint,
    Number.same_of_point?_eq (Number.read?_ne_nan hm) hpoint.symm⟩

/-- Values of the same label are the same, what is no number aside. -/
theorem sameValue_of_lowerLabel_eq (hv : v.IsSingle) (hlabel : x.lowerLabel = v.lowerLabel)
    (hnull : x ≠ .null) (hlist : ∀ items, x ≠ .list items)
    (hfits : ∀ n, x = .number n ∨ v = .number n → n.FitsDouble)
    (hnan : x ≠ .number (.double .nan) ∨ v ≠ .number (.double .nan)) : sameValue x v := by
  cases hv with
  | string s =>
      apply sameValue_of_lowerLabel hlabel (by simp [isString])
      intro m n hm hn
      rw [toNumber?_string] at hn
      cases x with
      | string t =>
          rw [toNumber?_string] at hm
          have hread := Number.read?_lower hm
          rw [show Text.lower t = Text.lower s from hlabel, Number.read?_lower hn] at hread
          obtain rfl := Option.some.inj hread
          exact Number.same_self (Number.read?_ne_nan hn)
      | number k =>
          obtain rfl := eq_of_toNumber?_number hm
          have hlower := hlabel.symm.trans (lowerLabel_number k)
          exact (same_of_lower_eq (hfits k (Or.inl rfl)) hlower hn (Value.toNumber?_ne_nan hm)).2
      | _ => cases hm
  | number n =>
      have hn := hfits n (Or.inr rfl)
      rw [lowerLabel_number] at hlabel
      rcases string_or_number_of_lowerLabel hn hlabel hnull hlist with ⟨t, rfl⟩ | ⟨m, rfl⟩
      · apply sameValue_of_lowerLabel (hlabel.trans (lowerLabel_number n).symm) rfl
        intro m k hm hk
        rw [toNumber?_string] at hm
        obtain rfl := eq_of_toNumber?_number hk
        exact (same_of_lower_eq hn hlabel hm (Value.toNumber?_ne_nan hk)).1
      · have hpoint := Number.point?_eq_of_plainText_eq (hfits m (Or.inl rfl)) hn
          ((lowerLabel_number m).symm.trans hlabel)
        have hiff : m = .double .nan ↔ n = .double .nan := by
          rw [← Number.point?_eq_none_iff, ← Number.point?_eq_none_iff, hpoint]
        have hn' : n ≠ .double .nan := by
          rintro rfl
          rcases hnan with h | h
          · exact h (congrArg Value.number (hiff.mpr rfl))
          · exact h rfl
        have hm' : m ≠ .double .nan := fun h => hn' (hiff.mp h)
        rw [sameValue_of_numbers (toNumber?_number hm') (toNumber?_number hn')]
        exact Number.same_of_point?_eq hn' hpoint

/-- No keyword has the label of a date. -/
theorem writtenMoment?_of_lowerLabel_eq {k : TimeKeyword} (hk : keyword? v = some k)
    (hlabel : x.lowerLabel = v.lowerLabel) : writtenMoment? x = none := by
  cases v with
  | string s =>
      have hread : TimeKeyword.read? x.label = some k :=
        (TimeKeyword.read?_eq_of_lower hlabel).trans hk
      cases x with
      | string t => exact Value.readMoment?_of_keyword hread
      | dateTime t =>
          refine absurd ?_ (TimeKeyword.hyphen_not_mem_of_read? hread)
          rw [Value.label, DateTime.isoText, String.toList_ofList, DateTime.charsWith,
            List.mem_append, List.mem_append]
          exact Or.inl (Or.inl (Date.hyphen_mem_isoChars _))
      | _ => rfl
  | _ => cases hk

/-- Values of the same label are equal, what is no number aside. -/
theorem equals_of_lowerLabel_eq (hv : v.IsSingle) (hlabel : x.lowerLabel = v.lowerLabel)
    (hnull : x ≠ .null) (hlist : ∀ items, x ≠ .list items)
    (hfits : ∀ n, x = .number n ∨ v = .number n → n.FitsDouble)
    (hnan : x ≠ .number (.double .nan) ∨ v ≠ .number (.double .nan)) (now : Moment) :
    equals now v x = .ok true := by
  have hone : equalsOne now v x = .ok true := by
    rw [equalsOne_eq_sameValue fun k hk => writtenMoment?_of_lowerLabel_eq hk hlabel,
      sameValue_of_lowerLabel_eq hv hlabel hnull hlist hfits hnan]
  cases x with
  | null => exact absurd rfl hnull
  | list items => exact absurd rfl (hlist items)
  | _ =>
      rw [equals]
      exact hone

end Match

end IssueQuery
