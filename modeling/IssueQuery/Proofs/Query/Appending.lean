import IssueQuery.Proofs.Query.Grammar
import IssueQuery.Proofs.Query.Word
import IssueQuery.Proofs.Text.Decimal

/-!
# Appending a clause

Behind a query there is room for any clause of a kind that it does not have yet.  The clause goes
into the trailer, and all that the query said before stays.
-/

namespace IssueQuery

open Outcome

namespace Token

/-! ## Words of digits -/

theorem isPlain_of_isDigit {c : Char} (h : c.isDigit) : isPlain c := by
  apply isPlain_of_isAlphanum
  simp [Char.isAlphanum, h]

/-- A word of digits has no meaning of its own. -/
theorem classify_of_isDigit {s : String} (h : ∀ c ∈ s.toList, c.isDigit) (position : Nat) :
    classify s.toList position = ⟨.word, s, position⟩ := by
  have hother : ∀ d : Char, d.isDigit = false → d ∉ s.toList := by
    intro d hd hmem
    rw [h d hmem] at hd
    cases hd
  have hopen : s.toList.head? ≠ some '(' := fun hhead =>
    hother '(' (by decide) (List.mem_of_head? hhead)
  have hclose : s.toList.getLast? ≠ some ')' := fun hlast =>
    hother ')' (by decide) (List.mem_of_getLast? hlast)
  have hcolon : s.toList.contains ':' = false := by
    simpa using hother ':' (by decide)
  have hkeyword : keywords.lookup (Text.upper s) = none := by
    have hletters : keywords.all fun p => p.1.toList.any fun c => !c.isDigit := by decide
    rw [Text.upper_of_isDigit h, List.lookup_eq_none_iff]
    intro p hp
    obtain ⟨c, hc, hdigit⟩ := List.any_eq_true.mp (List.all_eq_true.mp hletters p hp)
    rw [bne_iff_ne]
    rintro rfl
    exact hother c (by simpa using hdigit) hc
  unfold classify
  dsimp only
  rw [String.ofList_toList, decide_eq_false hopen, decide_eq_false hclose, Bool.or_self,
    if_neg Bool.false_ne_true, hcolon, Bool.false_and, if_neg Bool.false_ne_true, hkeyword]

theorem ofQuery_toString (n : Nat) : ofQuery (toString n) = .ok [⟨.word, toString n, 0⟩] := by
  have hplain : (toString n).toList.all isPlain := List.all_eq_true.mpr fun c hc =>
    isPlain_of_isDigit (Text.isDigit_of_mem_toString hc)
  rw [ofQuery_of_isPlain (Text.toList_toString_ne_nil n) hplain,
    classify_of_isDigit fun c hc => Text.isDigit_of_mem_toString hc]

theorem ofQuery_limit : ofQuery "LIMIT" = .ok [⟨.clause .limit, "LIMIT", 0⟩] := by
  have hchars : "LIMIT".toList = ['L', 'I', 'M', 'I', 'T'] := rfl
  rw [ofQuery_word hchars (by decide) rfl]
  cbv

end Token

namespace Query

variable {kind : EntityKind} {text : String} {q : Query} {clause : Clause}
  {clauses : List Clause} {tokens tokens' behind : List Token} {items : List FilterItem}

/-! ## Appended clauses -/

theorem ClausePart.append_singleton (h : ClausePart kind clauses tokens)
    (hclause : clause.Written kind tokens') :
    ClausePart kind (clauses ++ [clause]) (tokens ++ tokens') := by
  induction h with
  | nil => simpa using ClausePart.cons hclause .nil
  | cons hfirst _ ih =>
      rw [List.append_assoc]
      exact .cons hfirst ih

/-- A clause is written by the same words at any place. -/
theorem Clause.Written.shift (h : clause.Written kind tokens) (k : Nat) :
    clause.Written kind (tokens.map (Token.shift k)) := by
  cases h with
  | @order keyword by' field hkeyword hby hfield hknown =>
      exact @order kind (keyword.shift k) (by'.shift k) (field.shift k) hkeyword hby hfield hknown
  | @directed keyword by' field word direction hkeyword hby hfield hknown hword hdirection =>
      exact @directed kind (keyword.shift k) (by'.shift k) (field.shift k) (word.shift k) direction
        hkeyword hby hfield hknown hword hdirection
  | @group keyword by' field hkeyword hby hfield hknown =>
      exact @group kind (keyword.shift k) (by'.shift k) (field.shift k) hkeyword hby hfield hknown
  | limit hkeyword hnumber hwrites hpos => exact .limit hkeyword hnumber hwrites hpos

/-- The query with one more clause, as another text writes it. -/
def withClause (q : Query) (clause : Clause) (text : String) : Query :=
  { q with trailer := q.trailer.set clause, text }

theorem not_has_of_comprises (h : q.Comprises tokens items clauses behind)
    (hnew : q.trailer.has clause.kind = false) : clause.kind ∉ clauses.map Clause.kind := by
  intro hmem
  obtain ⟨c, hc, hkind⟩ := List.mem_map.mp hmem
  have hholds := (h.trailer c).mpr hc
  rw [← hkind] at hnew
  cases c <;> simp_all [Trailer.Holds, Trailer.has, Clause.kind]

theorem Comprises.withClause (h : q.Comprises tokens items clauses behind)
    (hnew : q.trailer.has clause.kind = false) (hclause : clause.Written q.kind tokens')
    (text : String) :
    (q.withClause clause text).Comprises (tokens ++ tokens') items (clauses ++ [clause])
      (behind ++ tokens') where
  tokens := by rw [h.tokens, List.append_assoc]
  filterPart := h.filterPart
  clausePart := h.clausePart.append_singleton hclause
  once := by
    rw [List.map_append, List.nodup_append]
    refine ⟨h.once, by simp, ?_⟩
    intro k hk k' hk'
    rintro rfl
    have hlast : k = clause.kind := by simpa using hk'
    exact not_has_of_comprises h hnew (hlast ▸ hk)
  filters := h.filters
  trailer := by
    intro c
    rw [List.mem_append, List.mem_singleton, ← h.trailer]
    exact Trailer.holds_set hnew

/-- A clause of a new kind may be written behind a query. -/
theorem read_append_clause {text' blanks : String} (hread : read kind text = .ok q)
    (hnew : q.trailer.has clause.kind = false) (htokens : Token.ofQuery text' = .ok tokens')
    (hclause : clause.Written kind tokens') (hne : blanks ≠ "")
    (hblanks : Text.isBlankText blanks) :
    read kind (text ++ blanks ++ text') =
      .ok (q.withClause clause (text ++ blanks ++ text')) := by
  obtain ⟨hwritten, tokens, htext, hq⟩ := read_eq_ok_iff.mp hread
  obtain ⟨⟨items, clauses, behind, hparts⟩, rfl, -⟩ := exists_comprises_of_ofTokens hq
  refine read_eq_ok_iff.mpr ⟨?_, _, Token.ofQuery_append htext htokens hne hblanks, ?_⟩
  · intro hblank
    rw [Text.isBlankText, String.toList_append, String.toList_append, List.all_append,
      List.all_append, Bool.and_eq_true, Bool.and_eq_true] at hblank
    exact hwritten hblank.1.1
  · exact ofTokens_of_comprises (hparts.withClause hnew (hclause.shift _) _)

theorem writesNumber_toString (n : Nat) : WritesNumber (toString n) n :=
  ⟨(toString n).toList, Or.inl rfl, Text.toList_toString_ne_nil n,
    fun _ hc => Text.isDecimal_of_isDigit (Text.isDigit_of_mem_toString hc),
    Text.decimalValue_toString n⟩

/-- Behind a query without a limit, a limit may be written. -/
theorem read_append_limit {n : Nat} (hread : read kind text = .ok q)
    (hfree : q.trailer.limit = none) (hn : 1 ≤ n) :
    read kind (text ++ " LIMIT " ++ toString n) =
      .ok (q.withClause (.limit n) (text ++ " LIMIT " ++ toString n)) := by
  have hblank : Text.isBlankText " " := by decide
  have hne : " " ≠ "" := by decide
  have htokens := Token.ofQuery_append Token.ofQuery_limit (Token.ofQuery_toString n) hne hblank
  have htext : text ++ " LIMIT " ++ toString n = text ++ " " ++ ("LIMIT" ++ " " ++ toString n) := by
    calc
      text ++ (" " ++ "LIMIT" ++ " ") ++ toString n =
          text ++ " " ++ "LIMIT" ++ " " ++ toString n := by
        rw [← String.append_assoc, ← String.append_assoc]
      _ = text ++ " " ++ ("LIMIT" ++ " " ++ toString n) := by
        rw [← String.append_assoc, ← String.append_assoc]
  have hnew : q.trailer.has (Clause.limit n).kind = false := by
    simp [Clause.kind, Trailer.has, hfree]
  rw [htext]
  exact read_append_clause hread hnew htokens
    (.limit rfl rfl (writesNumber_toString n) hn) hne hblank

end Query

end IssueQuery
