import IssueQuery.Proofs.Query.QuotedText

/-!
# Lists in brackets

A list is written in brackets with commas between its elements.  It is a part of one word if every
element leaves nothing open, and it is taken apart at the commas between the elements alone if none
of them is cut itself.  Blanks around an element do not belong to it.
-/

namespace IssueQuery

open Outcome

/-! ## Blanks around a text -/

/-- Blanks around a text that has none at its ends are trimmed. -/
theorem Text.trimChars_append {before cs behind : List Char} (hbefore : ∀ c ∈ before, isBlank c)
    (hbehind : ∀ c ∈ behind, isBlank c) (hfirst : ∀ c, cs.head? = some c → isBlank c = false)
    (hlast : ∀ c, cs.getLast? = some c → isBlank c = false) (hne : cs ≠ []) :
    trimChars (before ++ cs ++ behind) = cs := by
  have hdrop : ∀ ds : List Char, (∀ c, ds.head? = some c → isBlank c = false) →
      ds.dropWhile isBlank = ds := by
    intro ds hds
    cases ds with
    | nil => rfl
    | cons d ds =>
        rw [List.dropWhile_cons, hds d rfl, if_neg Bool.false_ne_true]
  have hfront : (before ++ cs ++ behind).dropWhile isBlank = cs ++ behind := by
    rw [List.append_assoc, List.dropWhile_append_of_pos hbefore]
    apply hdrop
    intro c hc
    rw [List.head?_append_of_ne_nil _ hne] at hc
    exact hfirst c hc
  have hback : (cs ++ behind).reverse.dropWhile isBlank = cs.reverse := by
    rw [List.reverse_append, List.dropWhile_append_of_pos (by simpa using hbehind)]
    apply hdrop
    intro c hc
    rw [List.head?_reverse] at hc
    exact hlast c hc
  rw [trimChars, hfront, hback, List.reverse_reverse]

/-! ## The word of a list -/

/-- The text of a list: its elements between commas, in brackets. -/
def Literal.bracketed (parts : List (List Char)) : List Char :=
  '[' :: ([','].intercalate parts ++ [']'])

theorem Literal.bracketed_ne_nil (parts : List (List Char)) : bracketed parts ≠ [] :=
  List.cons_ne_nil _ _

open Literal (bracketed)

namespace Scan

variable {cs : List Char} {parts : List (List Char)}

/-- A pair of brackets closes what it opens, and inside it blanks do not end the word. -/
theorem passes_brackets (h : Passes Token.stopsAt 1 cs) :
    Passes Token.stopsAt 0 ('[' :: (cs ++ [']'])) := by
  have hopen : ∀ s : Scan, s.IsAt 0 → (s.step '[').IsAt 1 := by
    intro s hs
    constructor
    · simp [step, opensQuote, hs.quote]
    · simp [step, opensQuote, hs.quote, hs.depth]
  have hclose : ∀ s : Scan, s.IsAt 1 → (s.step ']').IsAt 0 := by
    intro s hs
    constructor
    · simp [step, opensQuote, hs.quote]
    · simp [step, opensQuote, hs.quote, hs.depth]
  constructor
  · intro s hs
    refine ⟨Token.stopsAt_of_not_isBlank s (by decide) (by decide), ?_⟩
    rw [avoids_append]
    refine ⟨h.avoids _ (hopen s hs), ?_, avoids_nil _ _⟩
    have hinside := h.isAt _ (hopen s hs)
    simp [Token.stopsAt, Token.closesNothing, isTop, hinside.depth]
  · intro s hs
    rw [run_cons, run_append]
    exact hclose _ (h.isAt _ (hopen s hs))

theorem passes_bracketed (h : ∀ part ∈ parts, Passes Token.stopsAt 1 part) :
    Passes Token.stopsAt 0 (bracketed parts) := by
  have hcomma : Passes Token.stopsAt 1 [','] := by
    apply passes_of_isNeutral
    · intro c hc
      obtain rfl := List.mem_singleton.mp hc
      decide
    · intro s _ c hc
      obtain rfl := List.mem_singleton.mp hc
      exact Token.stopsAt_of_isPlain s (by decide)
  exact passes_brackets (passes_intercalate hcomma h)

end Scan

/-! ## Reading a list -/

variable {kind : EntityKind} {type : FieldType} {name opName : String} {op : Operator}
  {raw : List Char} {parts : List (List Char)} {position : Nat}

/-- An element that shows something but no bracket is read without the blanks around it. -/
theorem Literal.readElements_cons {element : List Char} (elements : List (List Char))
    (raw : List Char) (start position : Nat) (hne : Text.trimChars element ≠ [])
    (hopen : '[' ∉ Text.trimChars element) (hclose : ']' ∉ Text.trimChars element) :
    readElements raw start position (element :: elements) = (do
      let value ← readScalar (Text.trimChars element) position
      let values ← readElements raw start (position + element.length + 1) elements
      return value :: values) := by
  rw [readElements]
  simp [hne, hopen, hclose]

/-- The elements of a list are its parts. -/
theorem Literal.readList_bracketed (op : Operator) (position : Nat) (hne : parts ≠ [])
    (h : ∀ part ∈ parts, Scan.Passes (Scan.cuts ',') 0 part) :
    readList op (bracketed parts) position = (do
      let values ← readElements (bracketed parts) position (position + 1) parts
      if op.relation = .between ∧ values.length ≠ 2 then
        SyntaxError.near (.boundCount values.length) (String.ofList (bracketed parts)) position
      else return values) := by
  have hinside : inside (bracketed parts) = [','].intercalate parts := by
    simp [inside, bracketed]
  have hlast : (bracketed parts).getLast? = some ']' := by
    simp [bracketed, List.getLast?_cons]
  have hends : (decide ((bracketed parts).head? ≠ some '[') ||
      decide ((bracketed parts).getLast? ≠ some ']')) = false := by
    rw [hlast]
    simp [bracketed]
  have hsplit : Scan.split ',' none (inside (bracketed parts)) = parts := by
    rw [hinside, Scan.split]
    exact Scan.splitFrom_intercalate rfl (by decide) hne h
  unfold readList
  rw [hends, if_neg Bool.false_ne_true, hsplit]

namespace FilterClause

theorem readOperand_list (field : String) (hlist : op.relation.takesList) :
    readOperand field ⟨op, some raw, position⟩ =
      (Literal.readList op raw position).map fun values => (op, .list values) := by
  unfold readOperand
  dsimp only
  rw [if_pos hlist]
  cases Literal.readList op raw position with
  | error e => rfl
  | ok values => rfl

/-- A filter with a list is read by reading the list. -/
theorem ofToken_list (hname : Field.IsWritten kind type name) (hop : op.IsNamed opName)
    (hlist : op.relation.takesList) (hraw : raw ≠ []) {token : Token}
    (htext : token.text.toList = name.toList ++ ':' :: (opName.toList ++ ':' :: raw)) :
    ofToken kind token = (do
      let values ← Literal.readList op raw
        (token.position + name.toList.length + 1 + opName.toList.length + 1)
      if op.relation.admits type then
        return {
          field := Field.canonical name
          operator := op
          operand := ← checkOperand (Field.canonical name) type op (.list values) token }
      else
        SyntaxError.near (.inapplicable op type (Field.canonical name)) token.text
          token.position) := by
  rw [ofToken_of_isWritten hname htext, splitOperator_of_isNamed hop hraw, ok_bind,
    readOperand_list _ hlist]
  cases Literal.readList op raw _ with
  | error e => rfl
  | ok values => rfl

end FilterClause

namespace Query

/-- A filter with a list of parts that leave nothing open is a query of its own. -/
theorem ofQuery_bracketed (hname : Field.IsWritten kind type name) (hop : op.IsNamed opName)
    (h : ∀ part ∈ parts, Scan.Passes Token.stopsAt 1 part) :
    Token.ofQuery (filterText name (opName ++ ":") (String.ofList (bracketed parts))) =
      .ok [⟨.fieldExpr, filterText name (opName ++ ":") (String.ofList (bracketed parts)), 0⟩] := by
  have hchars := toList_filterText name (opName ++ ":") (String.ofList (bracketed parts))
  rw [String.toList_ofList] at hchars
  have hspelling := FilterClause.isPlain_of_writtenAs (.name hop)
  have hpasses : Scan.Passes Token.stopsAt 0
      ((opName ++ ":").toList ++ bracketed parts) := by
    apply Scan.passes_append
    · apply Scan.passes_of_isNeutral
      · intro c hc
        exact (Token.isPlain_iff.mp (hspelling c hc)).2
      · intro s _ c hc
        exact Token.stopsAt_of_isPlain s (hspelling c hc)
    · exact Scan.passes_bracketed h
  have hcolon : Token.behindColon.IsAt 0 := ⟨rfl, rfl⟩
  apply Token.ofQuery_of_isFieldName hname.isName hchars
  · exact hpasses.avoids _ hcolon
  · exact Scan.isTop_iff.mpr (hpasses.isAt _ hcolon)
  · have hend : (':' :: ((opName ++ ":").toList ++ bracketed parts)).getLast? = some ']' := by
      simp [bracketed, List.getLast?_cons, List.getLast?_append]
    rw [hend]
    decide

end Query

end IssueQuery
