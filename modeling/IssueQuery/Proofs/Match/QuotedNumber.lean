import IssueQuery.Proofs.Match.Equality
import IssueQuery.Proofs.Number.LetterCase
import IssueQuery.Proofs.Table

/-!
# Numbers between quotes

A numeral between quotes is a text, and yet it equals what its number equals.  Both are compared
with numbers as numbers.  Any other value has a label that spells no number, in no letter case and
however it is trimmed, so it is neither the text nor the text of the number.  Truth values are the
exception: they count as numbers beside a number only.
-/

namespace IssueQuery

open Outcome Text

/-! ## Texts that spell no number -/

theorem Number.read?_eq_none_of_mem {s : String} {c : Char} (hmem : c ∈ s.toList)
    (hblank : isBlank c = false) (hc : ¬Number.IsNumeralChar c) : Number.read? s = none := by
  have htrim : c ∈ trimChars s.toList := Iso.mem_trimEnd (Iso.mem_dropWhile hmem hblank) hblank
  rw [Number.read?, Option.map_eq_none_iff]
  by_contra hsome
  obtain ⟨x, hx⟩ := Option.ne_none_iff_exists'.mp hsome
  exact hc (Number.Numeral.isNumeralChar_of_read? hx htrim)

theorem Date.read?_isoText (d : Date) : Number.read? d.isoText = none := by
  have hblank : ∀ c ∈ d.isoChars, isBlank c = false := by
    intro c hc
    rcases isDigit_or_hyphen_of_mem_isoChars hc with hdigit | rfl
    · exact (Number.spec_of_isWritingChar (Double.isWritingChar_of_isDigit hdigit)).2
    · decide
  rw [Number.read?, isoText, String.toList_ofList, trimChars_of_not_isBlank hblank,
    d.read?_isoChars]
  rfl

/-- A numeral is no time keyword: each of these shows a letter that no number has. -/
theorem TimeKeyword.read?_of_numeral {s : String} (h : (Number.read? s).isSome) :
    TimeKeyword.read? s = none := by
  by_contra hkeyword
  obtain ⟨k, hk⟩ := Option.ne_none_iff_exists'.mp hkeyword
  rcases mem_named_or_readAgo? hk with hnamed | hago
  · have hwords : ∀ p ∈ named, Number.read? p.1 = none := by decide +kernel
    have hword := hwords _ hnamed
    rw [Number.read?_lower_eq, Number.read?_trim] at hword
    rw [hword] at h
    cases h
  · obtain ⟨amount, c, hlower, -, -, hunit⟩ := exists_amount_of_readAgo? hago
    rw [Number.read?, Option.isSome_map, ← Number.Numeral.read?_lower, hlower] at h
    obtain ⟨x, hx⟩ := Option.isSome_iff_exists.mp h
    have hunits : ['h', 'd', 'w', 'm', 'y'].all fun c =>
        Number.numeralRanges.all (Text.Packed.isApart · (Number.entryOf c)) := by
      decide
    exact Number.not_isNumeralChar_of_isApart
      (List.all_eq_true.mp hunits c (mem_unitChars hunit))
      (Number.Numeral.isNumeralChar_of_read? hx (by simp))

namespace Match

variable {now : Moment} {field : String} {r : Record} {v x : Value} {t : String} {n : Number}

/-- A single value that is no number has no label that spells one. -/
theorem read?_label (h : x.toNumber? = none) (hnull : x ≠ .null) (hbool : ∀ b, x ≠ .bool b)
    (hlist : ∀ items, x ≠ .list items) : Number.read? x.label = none := by
  cases x with
  | null => exact absurd rfl hnull
  | bool b => exact absurd rfl (hbool b)
  | list items => exact absurd rfl (hlist items)
  | string s => exact h
  | number m =>
      by_cases hnan : m = .double .nan
      · subst hnan
        decide
      · rw [toNumber?_number hnan] at h
        cases h
  | object fields =>
      have hbrace : '\x7b' ∈ (Value.object fields).label.toList := by
        simp [Value.label, Value.inner]
      exact Number.read?_eq_none_of_mem hbrace (by decide)
        (Number.not_isNumeralChar_of_isApart (by decide))
  | dateTime t =>
      have hletter : 'T' ∈ (Value.dateTime t).label.toList := by
        simp [Value.label, DateTime.isoText, DateTime.charsWith]
      exact Number.read?_eq_none_of_mem hletter (by decide)
        (Number.not_isNumeralChar_of_isApart (by decide))
  | date d => exact d.read?_isoText

/-- A label that spells no number is not that of a value whose label does. -/
theorem plainLabel_beq_eq_false (hx : Number.read? x.label = none)
    (hv : (Number.read? v.label).isSome) : (plainLabel x == plainLabel v) = false := by
  have hlabel : ∀ w : Value, Number.read? (plainLabel w) = Number.read? w.label := by
    intro w
    rw [plainLabel, Number.read?_lower_eq, Number.read?_trim]
  rw [beq_eq_false_iff_ne]
  intro h
  rw [← hlabel, ← h, hlabel, hx] at hv
  cases hv

/-- A finite number that a text spells is written as a numeral. -/
theorem isSome_read?_plainText (ht : Number.read? t = some n)
    (hfinite : ∀ d, n = .double d → d.toRat?.isSome) : (Number.read? n.plainText).isSome := by
  rcases Number.read?_plainText (Number.fitsDouble_of_read? ht) with ⟨k, hk, -⟩ | ⟨d, hn, hd⟩
  · rw [hk]
    rfl
  · have hsome := hfinite d hn
    rw [hd] at hsome
    cases hsome

theorem same_number_of_not_number (h : x.toNumber? = none) (hbool : ∀ b, x ≠ .bool b)
    (n : Number) : x.same (.number n) = false := by
  cases x with
  | bool b => exact absurd rfl (hbool b)
  | number m =>
      by_cases hnan : m = .double .nan
      · subst hnan
        rfl
      · rw [toNumber?_number hnan] at h
        cases h
  | _ => rfl

/-- Beside a single value, a number and a text that spells it are the same. -/
theorem sameValue_number_eq_text (ht : Number.read? t = some n)
    (hfinite : ∀ d, n = .double d → d.toRat?.isSome) (hnull : x ≠ .null)
    (hbool : ∀ b, x ≠ .bool b) (hlist : ∀ items, x ≠ .list items) :
    sameValue x (.number n) = sameValue x (.string t) := by
  have hn := toNumber?_number (Number.read?_ne_nan ht)
  have htext := (toNumber?_string t).trans ht
  cases hx : x.toNumber? with
  | some m => rw [sameValue_of_numbers hx hn, sameValue_of_numbers hx htext]
  | none =>
      have hlabel := read?_label hx hnull hbool hlist
      have hspelled : (Number.read? (Value.string t).label).isSome := by
        rw [Value.label, ht]
        rfl
      have hstring : (isString x || isString (.string t)) = true := Bool.or_true _
      rw [sameValue_of_labels (Or.inl hx) hstring, plainLabel_beq_eq_false hlabel hspelled]
      cases hx' : isString x with
      | true =>
          rw [sameValue_of_labels (Or.inl hx) (by rw [hx', Bool.true_or])]
          exact plainLabel_beq_eq_false hlabel (isSome_read?_plainText ht hfinite)
      | false =>
          have hsame := same_number_of_not_number hx hbool n
          rw [sameValue, hx, hn]
          simp only [hx', hsame]
          rfl

/-! ## Lists -/

mutual

/-- Whether a value is a truth value, or an element of it is. -/
def holdsTruth : Value → Bool
  | .list items => holdsTruthItems items
  | .bool _ => true
  | _ => false

/-- Whether one of several values is a truth value, or an element of them is. -/
def holdsTruthItems : List Value → Bool
  | [] => false
  | v :: vs => holdsTruth v || holdsTruthItems vs

end

theorem equalsOne_number_eq_text (ht : Number.read? t = some n)
    (hfinite : ∀ d, n = .double d → d.toRat?.isSome) (hnull : x ≠ .null)
    (hbool : ∀ b, x ≠ .bool b) (hlist : ∀ items, x ≠ .list items) (now : Moment) :
    ∃ b, equalsOne now (.number n) x = .ok b ∧ equalsOne now (.string t) x = .ok b := by
  have hnone : ∀ v : Value, keyword? v = none → equalsOne now v x = .ok (sameValue x v) :=
    fun v hv => equalsOne_eq_sameValue fun k hk => absurd (hv.symm.trans hk) (by simp)
  have hkeyword : keyword? (.string t) = none := by
    rw [keyword?]
    exact TimeKeyword.read?_of_numeral (Option.isSome_of_eq_some ht)
  refine ⟨sameValue x (.number n), hnone (.number n) rfl, ?_⟩
  rw [sameValue_number_eq_text ht hfinite hnull hbool hlist]
  exact hnone (.string t) hkeyword

mutual

/-- Values without truth values equal a number exactly if they equal a text that spells it. -/
theorem equals_number_eq_text (ht : Number.read? t = some n)
    (hfinite : ∀ d, n = .double d → d.toRat?.isSome) (now : Moment) (x : Value)
    (hx : holdsTruth x = false) :
    ∃ b, equals now (.number n) x = .ok b ∧ equals now (.string t) x = .ok b := by
  cases x with
  | null =>
      have htext : asksForNothing (.string t) = false := by
        rw [asksForNothing, decide_eq_false_iff_not]
        rintro rfl
        have hnull : Number.read? "null" = none := by decide
        rw [hnull] at ht
        cases ht
      exact ⟨false, rfl, congrArg Except.ok htext⟩
  | bool b => cases hx
  | list items =>
      obtain ⟨b, hnumber, htext⟩ := equalsAny_number_eq_text ht hfinite now items hx
      exact ⟨b, by rw [equals]; exact hnumber, by rw [equals]; exact htext⟩
  | _ =>
      rw [equals, equals]
      exact equalsOne_number_eq_text ht hfinite (by simp) (by simp) (by simp) now

theorem equalsAny_number_eq_text (ht : Number.read? t = some n)
    (hfinite : ∀ d, n = .double d → d.toRat?.isSome) (now : Moment) (values : List Value)
    (hvalues : holdsTruthItems values = false) :
    ∃ b, equalsAny now (.number n) values = .ok b ∧ equalsAny now (.string t) values = .ok b := by
  cases values with
  | nil => exact ⟨false, rfl, rfl⟩
  | cons x xs =>
      obtain ⟨hx, hxs⟩ := Bool.or_eq_false_iff.mp hvalues
      obtain ⟨b, hnumber, htext⟩ := equals_number_eq_text ht hfinite now x hx
      rw [equalsAny, equalsAny, hnumber, htext, ok_bind, ok_bind]
      cases b with
      | true => exact ⟨true, rfl, rfl⟩
      | false => exact equalsAny_number_eq_text ht hfinite now xs hxs

end

/-- No value with a meaning of its own is a number. -/
theorem specialWord?_of_numeral (ht : Number.read? t = some n) (field : String) :
    specialWord? field (.string t) = none := by
  have hwords : ∀ p ∈ Field.specialValues, ∀ word ∈ p.2, Number.read? word = none := by
    decide +kernel
  rw [specialWord?]
  split
  · rename_i hspecial
    rw [List.contains_iff_mem, Field.specialValuesOf] at hspecial
    cases hlookup : Field.specialValues.lookup field with
    | none =>
        rw [hlookup] at hspecial
        cases hspecial
    | some words =>
        rw [hlookup] at hspecial
        have hnone := hwords _ (Table.mem_of_lookup hlookup) _ hspecial
        rw [Number.read?_lower_eq, ht] at hnone
        cases hnone
  · rfl

end Match

namespace FilterClause

/-- Quoting a numeral does not change what it equals.  On every record under whose values for the
field there are no truth values, a text that spells a finite number has the same verdict as this
number. -/
theorem quoted_number_has_same_verdict (field t : String) (n : Number)
    (ht : Value.toNumber? (.string t) = some n) (hfinite : ∀ d, n = .double d → d.toRat?.isSome)
    (now : Moment) (r : Record) (hr : Match.holdsTruthItems (r.candidates field) = false) :
    ∃ b, verdict ⟨field, Relation.equal.holds, .number n⟩ now r = .ok b ∧
      verdict ⟨field, Relation.equal.holds, .string t⟩ now r = .ok b ∧
      verdict ⟨field, Relation.equal.fails, .number n⟩ now r = .ok !b ∧
      verdict ⟨field, Relation.equal.fails, .string t⟩ now r = .ok !b := by
  rw [Match.toNumber?_string] at ht
  obtain ⟨b, hnumber, htext⟩ := Match.equalsAny_number_eq_text ht hfinite now _ hr
  have hholds : Match.holds now r field .equal (.number n) = .ok b := hnumber
  have hholds' : Match.holds now r field .equal (.string t) = .ok b := by
    unfold Match.holds
    dsimp only
    rw [Match.specialWord?_of_numeral ht]
    exact htext
  exact ⟨b, verdict_of_holds hholds, verdict_of_holds hholds', verdict_of_fails hholds,
    verdict_of_fails hholds'⟩

/-- A subject of `1000` equals the text `1e3`, as it equals the number. -/
theorem quoted_number_has_same_verdict_thousand :
    let now : Moment := ⟨.first, .midnight, .utc⟩
    let r : Record := ⟨0, .object [("subject", .string "1000")]⟩
    Value.toNumber? (.string "1e3") = some (.double (.finite 1000)) ∧
    verdict ⟨"subject", Relation.equal.holds, .double (.finite 1000)⟩ now r = .ok true ∧
    verdict ⟨"subject", Relation.equal.holds, .string "1e3"⟩ now r = .ok true := by
  intro now r
  have hread : Value.toNumber? (.string "1e3") = some (.double (.finite 1000)) := by
    decide +kernel
  have hnumber : verdict ⟨"subject", Relation.equal.holds, .double (.finite 1000)⟩ now r =
      .ok true := by
    decide +kernel
  obtain ⟨b, hb, htext, -⟩ := quoted_number_has_same_verdict "subject" "1e3" _ hread
    (by rintro _ ⟨⟩; rfl) now r rfl
  obtain rfl : b = true := Except.ok.inj (hb.symm.trans hnumber)
  exact ⟨hread, hnumber, htext⟩

end FilterClause

end IssueQuery
