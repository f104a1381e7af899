import IssueQuery.Proofs.Calendar.Keyword
import IssueQuery.Proofs.Match.Bounds
import IssueQuery.Proofs.Match.Equality
import IssueQuery.Proofs.Number.Written
import IssueQuery.Proofs.Query.BareWord
import IssueQuery.Proofs.Text.Words

/-!
# Searching for what a record says

A word without quotes finds the records whose subject it is, unless it spells a number.  Then it is
the number that is searched for, in the text that numbers are written back with, and this may be
another text: only the test for equality, which compares numbers as such, never misses.
-/

namespace IssueQuery

open Outcome
open Literal (IsBareWord ofWord)

/-! ## What is searched for -/

namespace Literal

variable {w : String}

theorem ofWord_of_number {n : Number} (h : Number.read? w = some n) : ofWord w = .number n := by
  rw [ofWord, h]

theorem ofWord_of_not_number (h : Number.read? w = none) : ofWord w = .string w := by
  rw [ofWord, h]

/-- The text that a search for a word looks for. -/
def soughtText (w : String) : List Char :=
  (ofWord w).lowerLabel.toList

theorem soughtText_of_not_number (h : Number.read? w = none) :
    soughtText w = (Text.lower w).toList := by
  rw [soughtText, ofWord_of_not_number h]
  rfl

theorem soughtText_of_number {n : Number} (h : Number.read? w = some n) :
    soughtText w = n.plainText.toList := by
  rw [soughtText, ofWord_of_number h]
  exact congrArg String.toList n.lower_plainText

/-- A search for a bare word looks for one word. -/
theorem words_soughtText (h : IsBareWord w) : Text.words (soughtText w) = [soughtText w] := by
  cases hn : Number.read? w with
  | none =>
      rw [soughtText_of_not_number hn, Text.toList_lower]
      apply Text.words_of_not_isBlank
      · rw [Text.Case.lower, Ne, Text.Case.lowerFrom_eq_nil_iff]
        exact h.nonempty
      · exact Text.Case.not_isBlank_lowerFrom h.not_isBlank false
  | some n =>
      rw [soughtText_of_number hn]
      obtain ⟨hne, hchars⟩ := n.plainText_spec
      exact Text.words_of_not_isBlank hne fun c hc => (Number.spec_of_isWritingChar (hchars c hc)).2

theorem IsBareWord.isEmpty (h : IsBareWord w) : w.isEmpty = false := by
  rw [Bool.eq_false_iff]
  intro hempty
  rw [String.isEmpty_iff] at hempty
  subst hempty
  exact h.nonempty rfl

theorem not_isBlankOperand_ofWord (h : IsBareWord w) : Match.isBlankOperand (ofWord w) = false := by
  cases hn : Number.read? w with
  | some n =>
      rw [ofWord_of_number hn]
      rfl
  | none =>
      rw [ofWord_of_not_number hn]
      exact h.isEmpty

end Literal

open Literal (soughtText)

namespace Match

variable {now : Moment} {w : String} {test : List Char → List Char → Bool}

/-- A word equals itself, whether it is compared as a number or as a text. -/
theorem equals_ofWord (now : Moment) (w : String) :
    equals now (ofWord w) (.string w) = .ok true := by
  rw [equals]
  cases hn : Number.read? w with
  | some n =>
      have hnan := Number.read?_ne_nan hn
      have hday : ∀ k, keyword? (.number n) = some k → writtenMoment? (.string w) = none :=
        fun k hk => absurd hk (Option.some_ne_none k).symm
      rw [Literal.ofWord_of_number hn, equalsOne_eq_sameValue hday,
        sameValue_of_numbers ((toNumber?_string w).trans hn) (toNumber?_number hnan),
        Number.same_self hnan]
  | none =>
      have hday : ∀ k, keyword? (.string w) = some k → writtenMoment? (.string w) = none :=
        fun k hk => Value.readMoment?_of_keyword hk
      rw [Literal.ofWord_of_not_number hn, equalsOne_eq_sameValue hday,
        sameValue_of_labels (Or.inl ((toNumber?_string w).trans hn)) rfl, beq_self_eq_true]

theorem testLabels_ofWord (h : IsBareWord w) :
    testLabels test (.string w) (ofWord w) = test (soughtText w) (Text.lower w).toList := by
  have htruthy : (Value.string w).isTruthy = true := by
    rw [Value.isTruthy, h.isEmpty]
    rfl
  rw [testLabels, htruthy, Literal.not_isBlankOperand_ofWord h]
  rfl

end Match

/-! ## Searches for a word -/

/-- The ways to search for a word. -/
inductive WordSearch where
  | equal
  | oneOf
  | contains
  | startsWith
  | endsWith
  | fuzzy
  deriving DecidableEq

namespace WordSearch

/-- The relation that a search asks for. -/
def relation : WordSearch → Relation
  | equal => .equal
  | oneOf => .oneOf
  | contains => .contains
  | startsWith => .startsWith
  | endsWith => .endsWith
  | fuzzy => .fuzzy

/-- What a search for a word compares with. -/
def operand (w : String) : WordSearch → Value
  | oneOf => .list [ofWord w]
  | _ => ofWord w

/-- A search for a word among the subjects of records, as it is written. -/
def text (w : String) : WordSearch → String
  | equal => Query.filterText "subject" "" w
  | oneOf => Query.filterText "subject" ("in" ++ ":") ("[" ++ w ++ "]")
  | contains => Query.filterText "subject" ("contains" ++ ":") w
  | startsWith => Query.filterText "subject" ("startswith" ++ ":") w
  | endsWith => Query.filterText "subject" ("endswith" ++ ":") w
  | fuzzy => Query.filterText "subject" "~" w

/-- The filter of a search for a word among the subjects of records. -/
def clause (search : WordSearch) (w : String) : FilterClause :=
  ⟨"subject", search.relation.holds, search.operand w⟩

/-- Whether a search for a word finds it where `sought` is the text that it looks for, and `own` the
word itself in lower case. -/
def finds (sought own : List Char) : WordSearch → Bool
  | equal => true
  | oneOf => sought = own
  | contains => sought <:+: own
  | startsWith => sought <+: own
  | endsWith => sought <:+ own
  | fuzzy => sought <:+: own

theorem finds_self (search : WordSearch) (cs : List Char) : search.finds cs cs := by
  cases search <;> simp [finds]

variable {w : String} {now : Moment} {r : Record}

/-- Every search is read as a filter on the subject. -/
theorem readsAs_clause (kind : EntityKind) (h : IsBareWord w) (search : WordSearch) :
    Query.ReadsAs kind (search.text w) (search.clause w) := by
  have htype : Field.type? kind "subject" = some .string := by cases kind <;> decide
  obtain ⟨hname, hcanonical⟩ := Field.isWritten_of_type? htype
  have hword : ∀ {op : Operator} {spelling : String}, op.WrittenAs spelling →
      ¬op.relation.takesList →
        Query.ReadsAs kind (Query.filterText "subject" spelling w) ⟨"subject", op, ofWord w⟩ := by
    intro op spelling hop hscalar
    have hreads := Query.readsAs_of_isBareWord hname (Or.inl rfl) hop hscalar h
    rwa [hcanonical] at hreads
  have hnamed : ∀ {op : Operator} {opName : String}, op.IsNamed opName → ¬op.relation.takesList →
      Query.ReadsAs kind (Query.filterText "subject" (opName ++ ":") w)
        ⟨"subject", op, ofWord w⟩ := fun hop => hword (.name hop)
  cases search with
  | equal => exact hword .bare (by decide)
  | oneOf =>
      have hop : Relation.oneOf.holds.IsNamed "in" := ⟨by decide, by decide, by decide⟩
      have hreads := Query.readsAs_bracketed_of_isBareWord hname hop rfl h
      rwa [hcanonical] at hreads
  | contains => exact hnamed ⟨by decide, by decide, by decide⟩ (by decide)
  | startsWith => exact hnamed ⟨by decide, by decide, by decide⟩ (by decide)
  | endsWith => exact hnamed ⟨by decide, by decide, by decide⟩ (by decide)
  | fuzzy => exact hword (.symbol (by decide)) (by decide)

theorem candidates_subject (hr : r.resolve "subject" = .string w) :
    r.candidates "subject" = [.string w] := by
  have hnone : Resolver.alternates.lookup "subject" = none := by decide
  rw [Record.candidates, Record.alternates, hnone, hr]
  rfl

theorem verdict_clause (h : IsBareWord w) (hr : r.resolve "subject" = .string w)
    (search : WordSearch) (now : Moment) :
    (search.clause w).verdict now r =
      .ok (search.finds (soughtText w) (Text.lower w).toList) := by
  apply FilterClause.verdict_of_holds
  cases search with
  | equal =>
      have hspecial : Match.specialWord? "subject" (ofWord w) = none := by
        have hnone : Field.specialValuesOf "subject" = [] := by decide
        unfold Match.specialWord?
        split
        · rw [hnone]
          rfl
        · rfl
      unfold Match.holds
      simp only [relation, operand]
      rw [hspecial, candidates_subject hr]
      dsimp only
      rw [Match.equalsAny, Match.equals_ofWord, ok_bind]
      rfl
  | oneOf =>
      have hlabel : (Value.string w).lowerLabel = (ofWord w).lowerLabel ↔
          soughtText w = (Text.lower w).toList := by
        rw [soughtText, String.toList_inj, eq_comm]
        rfl
      unfold Match.holds
      simp only [relation, operand]
      rw [Match.oneOf, hr, candidates_subject hr]
      simp only [finds, Match.isAmong, List.map_cons, List.map_nil, List.any_cons, List.any_nil,
        List.contains_cons, List.contains_nil, Bool.or_false, beq_eq_decide, hlabel]
  | contains =>
      unfold Match.holds
      simp only [relation, operand]
      rw [hr, Match.contains, Match.testLabels_ofWord h, Text.occursIn_eq_decide, finds]
  | startsWith =>
      unfold Match.holds
      simp only [relation, operand]
      rw [hr, Match.startsWith, Match.testLabels_ofWord h, Text.isPrefixOf_eq_decide, finds]
  | endsWith =>
      unfold Match.holds
      simp only [relation, operand]
      rw [hr, Match.endsWith, Match.testLabels_ofWord h, Text.isSuffixOf_eq_decide, finds]
  | fuzzy =>
      unfold Match.holds
      simp only [relation, operand]
      rw [hr, Match.hasWords, Match.testLabels_ofWord h, Literal.words_soughtText h,
        List.all_cons, List.all_nil, Bool.and_true, Text.occursIn_eq_decide, finds]

/-- A bare word behind the field of subjects is read as a search for it, behind every operator.  On
a record whose subject is the word, the test for equality holds.  The other searches hold if the
text that is looked for stands there in the subject: this is the word itself if it is no numeral, so
that all of them hold, and else the text with which its number is written back. -/
theorem verdict_on_own_text (kind : EntityKind) (w : String) (h : IsBareWord w)
    (search : WordSearch) :
    Query.ReadsAs kind (search.text w) (search.clause w) ∧
    (∀ now r, r.resolve "subject" = .string w → (search.clause w).verdict now r =
      .ok (search.finds (soughtText w) (Text.lower w).toList)) ∧
    (Number.read? w = none → search.finds (soughtText w) (Text.lower w).toList) ∧
    ∀ n, Number.read? w = some n → soughtText w = n.plainText.toList := by
  refine ⟨readsAs_clause kind h search, fun now r hr => verdict_clause h hr search now, ?_, ?_⟩
  · intro hn
    rw [Literal.soughtText_of_not_number hn]
    exact search.finds_self _
  · intro n hn
    exact Literal.soughtText_of_number hn

/-- A keyword is found as any other word, whatever day it is. -/
theorem verdict_on_own_text_today : IsBareWord "Today" ∧
    ∀ now, FilterClause.verdict ⟨"subject", Relation.startsWith.holds, .string "Today"⟩ now
      ⟨0, .object [("subject", .string "Today")]⟩ = .ok true := by
  have hword : IsBareWord "Today" := {
    nonempty := by decide
    chars := by
      rw [← List.all_eq_true]
      decide
    noPair := by decide
    first := by
      intro c hc
      obtain rfl : 'T' = c := Option.some.inj hc
      decide
    valued := by
      intro op hop
      rw [show Operator.names.lookup (Text.lower "Today") = none by decide] at hop
      cases hop }
  have hnumber : Number.read? "Today" = none := by decide
  refine ⟨hword, fun now => ?_⟩
  obtain ⟨-, hverdict, hfinds, -⟩ := verdict_on_own_text .issue "Today" hword .startsWith
  have hown := hverdict now ⟨0, .object [("subject", .string "Today")]⟩ rfl
  have hoperand : startsWith.operand "Today" = .string "Today" :=
    Literal.ofWord_of_not_number hnumber
  rw [hfinds hnumber, clause, hoperand] at hown
  exact hown

/-- A word that spells a number is looked for as this number is written, without its zeros in front,
and no subject that is this word begins so. -/
theorem not_verdict_on_own_text : ¬∀ (kind : EntityKind) (w : String), IsBareWord w →
    ∀ (search : WordSearch) (now : Moment) (r : Record), r.resolve "subject" = .string w →
      ∃ c, Query.ReadsAs kind (search.text w) c ∧ c.verdict now r = .ok true := by
  intro h
  have hword : IsBareWord "007" := {
    nonempty := by decide
    chars := by
      rw [← List.all_eq_true]
      decide
    noPair := by decide
    first := by
      intro c hc
      obtain rfl : '0' = c := Option.some.inj hc
      decide
    valued := by
      intro op hop
      rw [show Operator.names.lookup (Text.lower "007") = none by decide] at hop
      cases hop }
  have hnumber : Number.read? "007" = some (.int 7) := by decide +kernel
  have hvalue : Record.resolve ⟨0, .object [("subject", .string "007")]⟩ "subject" =
      .string "007" := rfl
  obtain ⟨c, hreads, htrue⟩ := h .issue "007" hword .startsWith ⟨.first, .midnight, .utc⟩ _ hvalue
  obtain rfl : WordSearch.startsWith.clause "007" = c := by
    have hclause := (readsAs_clause .issue hword .startsWith).symm.trans hreads
    simpa [Query.ofFilter] using hclause
  rw [verdict_clause hword hvalue, Literal.soughtText_of_number hnumber] at htrue
  exact absurd htrue (by decide)

end WordSearch

end IssueQuery
