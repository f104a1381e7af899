import IssueQuery.Proofs.Query.Placement

/-!
# Texts behind other texts

Behind a text with tokens and some blanks, a text is cut into words as if it stood alone.  Its
tokens and its fault only stand so many characters further on: a fault is known by the rest of the
text that begins with it, and what stands in front does not change this rest.
-/

namespace IssueQuery

open Outcome

namespace Token

variable {a blanks b : String} {as bs : List Token} {e : SyntaxError}

/-- A fault of a text is told by what is left of the text there. -/
theorem ofQuery_eq_error_iff {query : String} : ofQuery query = .error e ↔
    ∃ fault, scan query.toList.length query.toList = .error fault ∧
      toSyntaxError query.toList.length fault = e :=
  mapError_eq_error_iff

/-- A fault with a longer text in front stands further on. -/
theorem toSyntaxError_add {fault : LexicalFault} {total : Nat} (k : Nat)
    (h : fault.rest.length ≤ total) :
    toSyntaxError (k + total) fault =
      { toSyntaxError total fault with position := some (k + (total - fault.rest.length)) } := by
  rw [toSyntaxError, Nat.add_sub_assoc h]
  rfl

theorem ofQuery_append_error (ha : ofQuery a = .ok as) (hb : ofQuery b = .error e)
    (hne : blanks ≠ "") (hblanks : Text.isBlankText blanks) :
    ∃ position, e.position = some position ∧
      ofQuery (a ++ blanks ++ b) =
        .error { e with position := some (a.length + blanks.length + position) } := by
  obtain ⟨fault, hscan, rfl⟩ := ofQuery_eq_error_iff.mp hb
  have hrest : fault.rest.length ≤ b.toList.length :=
    (suffix_of_scan (List.suffix_refl _) hscan).length_le
  have htotal : (a ++ blanks ++ b).toList.length = a.length + blanks.length + b.toList.length := by
    simp only [String.toList_append, List.length_append, String.length_toList]
  refine ⟨b.toList.length - fault.rest.length, rfl, ofQuery_eq_error_iff.mpr ⟨fault, ?_, ?_⟩⟩
  · rw [scan_append_blanks ha hne hblanks, hscan]
    rfl
  · rw [htotal, toSyntaxError_add _ hrest]

/-- Behind a text with tokens and blanks, a text has the tokens that it has alone, or the same fault
with the same fragment.  All of it stands as many characters further on as there are in front. -/
theorem tokens_behind_blanks (a blanks b : String) (as : List Token) (ha : ofQuery a = .ok as)
    (hne : blanks ≠ "") (hblanks : Text.isBlankText blanks) :
    (∀ bs, ofQuery b = .ok bs →
      ofQuery (a ++ blanks ++ b) = .ok (as ++ bs.map (shift (a.length + blanks.length)))) ∧
    ∀ e, ofQuery b = .error e → ∃ position, e.position = some position ∧
      ofQuery (a ++ blanks ++ b) =
        .error { e with position := some (a.length + blanks.length + position) } :=
  ⟨fun _ hb => ofQuery_append ha hb hne hblanks,
    fun _ hb => ofQuery_append_error ha hb hne hblanks⟩

/-- An apostrophe at the beginning of a word opens a quotation, also behind other words. -/
theorem tokens_behind_blanks_apostrophe :
    ofQuery "it's" = .ok [⟨.word, "it's", 0⟩] ∧
    ofQuery "x 'tis" = .error ⟨.unterminatedString, some "'tis", some 2⟩ ∧
    ofQuery ("it's" ++ "\t " ++ "x 'tis") = .error ⟨.unterminatedString, some "'tis", some 8⟩ := by
  have hits : ofQuery "it's" = .ok [⟨.word, "it's", 0⟩] := by
    have hchars : "it's".toList = ['i', 't', '\'', 's'] := rfl
    rw [ofQuery_word hchars (by decide) rfl]
    cbv
  have htis : ofQuery "x 'tis" = .error ⟨.unterminatedString, some "'tis", some 2⟩ := by
    have hchars : "x 'tis".toList = ['x', ' ', '\'', 't', 'i', 's'] := rfl
    refine ofQuery_eq_error_iff.mpr ⟨⟨.unterminatedString, ['\'', 't', 'i', 's']⟩, ?_, rfl⟩
    rw [hchars, scan_cons_of_firstWord (by decide) rfl, scan_cons_of_isBlank (by decide),
      scan_cons_of_fault (by decide) rfl]
    rfl
  obtain ⟨-, herror⟩ := tokens_behind_blanks "it's" "\t " "x 'tis" _ hits (by decide) (by decide)
  obtain ⟨position, hposition, hjoined⟩ := herror _ htis
  cases hposition
  exact ⟨hits, htis, hjoined⟩

end Token

end IssueQuery
