import IssueQuery.Proofs.Query.Bracketed

/-!
# Lists of quoted texts

The elements of a list may be quoted, with blanks around them.  Neither a comma nor a blank nor an
apostrophe between the quotes takes an element apart, so the list is read as the texts between the
quotes.  A bracket between the quotes does: the check for lists in lists does not look at quotes,
and takes such an element for a list of its own.
-/

namespace IssueQuery

open Outcome
open Literal (quoted bracketed)

/-- An element of a list: a text in double quotes, with blanks around it. -/
structure QuotedElement where
  before : List Char
  text : String
  behind : List Char
  before_blank : ∀ c ∈ before, Text.isBlank c
  behind_blank : ∀ c ∈ behind, Text.isBlank c
  closed : '"' ∉ text.toList

namespace QuotedElement

variable {es : List QuotedElement}

/-- The element as it is written. -/
def written (e : QuotedElement) : List Char :=
  e.before ++ quoted '"' e.text.toList ++ e.behind

/-- What the element is read as. -/
def value (e : QuotedElement) : Value :=
  .string e.text

/-- Whether the text of the element shows a bracket. -/
def showsBracket (e : QuotedElement) : Bool :=
  e.text.toList.contains '[' || e.text.toList.contains ']'

/-- The list of some elements as it is written. -/
def listing (es : List QuotedElement) : String :=
  String.ofList (bracketed (es.map written))

theorem toList_listing (es : List QuotedElement) :
    (listing es).toList = bracketed (es.map written) :=
  String.toList_ofList

/-- An element leaves nothing open, and a test that spares quotes and blanks never holds in it. -/
theorem passes_written {p : Scan → Char → Bool} {depth : Int} (hp : Scan.SparesQuotes p)
    (hblank : ∀ s : Scan, s.IsAt depth → ∀ c, Text.isBlank c → p s c = false) (e : QuotedElement) :
    Scan.Passes p depth e.written := by
  have hblanks : ∀ blanks : List Char, (∀ c ∈ blanks, Text.isBlank c) →
      Scan.Passes p depth blanks := by
    intro blanks hblanks
    apply Scan.passes_of_isNeutral
    · intro c hc
      exact Scan.isNeutral_of_isBlank (hblanks c hc)
    · intro s hs c hc
      exact hblank s hs c (hblanks c hc)
  apply Scan.passes_append
  · exact Scan.passes_append (hblanks _ e.before_blank) (Scan.passes_quoted hp e.closed)
  · exact hblanks _ e.behind_blank

/-- Inside a list, no character of an element ends the word. -/
theorem passes_stopsAt (e : QuotedElement) : Scan.Passes Token.stopsAt 1 e.written := by
  apply passes_written Scan.sparesQuotes_stopsAt
  intro s hs c hc
  have hbracket : c ≠ ']' := by
    rintro rfl
    exact absurd hc (by decide)
  simp [Token.stopsAt, Token.closesNothing, Scan.isTop, hs.depth]

/-- An element is not cut at the commas in it. -/
theorem passes_cuts (e : QuotedElement) : Scan.Passes (Scan.cuts ',') 0 e.written := by
  apply passes_written (Scan.sparesQuotes_cuts ',')
  intro s _ c hc
  apply Scan.cuts_of_ne
  rintro rfl
  exact absurd hc (by decide)

theorem trimChars_written (e : QuotedElement) :
    Text.trimChars e.written = quoted '"' e.text.toList := by
  apply Text.trimChars_append e.before_blank e.behind_blank
  · intro c hc
    obtain rfl : '"' = c := by simpa [quoted] using hc
    decide
  · intro c hc
    obtain rfl : '"' = c := by simpa [quoted, List.getLast?_cons] using hc
    decide
  · exact List.cons_ne_nil _ _

/-- The elements are read one by one, until one shows a bracket. -/
theorem readElements_written (raw : List Char) (start position : Nat) (es : List QuotedElement) :
    Literal.readElements raw start position (es.map written) =
      if es.any showsBracket then SyntaxError.near .nestedList (String.ofList raw) start
      else .ok (es.map value) := by
  induction es generalizing position with
  | nil => rfl
  | cons e es ih =>
      rw [List.map_cons, List.any_cons]
      by_cases he : e.showsBracket
      · have hbracket : ((quoted '"' e.text.toList).contains '[' ||
            (quoted '"' e.text.toList).contains ']') = true := by
          simpa [quoted, showsBracket] using he
        rw [Literal.readElements, trimChars_written, hbracket, he]
        rfl
      · have hne : quoted '"' e.text.toList ≠ [] := List.cons_ne_nil _ _
        have hfree : '[' ∉ quoted '"' e.text.toList ∧ ']' ∉ quoted '"' e.text.toList := by
          simpa [quoted, showsBracket] using he
        have hscalar := Literal.readScalar_quoted position (Or.inl rfl) e.closed
        rw [String.ofList_toList] at hscalar
        rw [← trimChars_written] at hne hfree
        rw [Literal.readElements_cons _ _ _ _ hne hfree.1 hfree.2, trimChars_written, hscalar,
          ok_bind, ih, Bool.eq_false_iff.mpr he, Bool.false_or]
        by_cases hes : es.any showsBracket
        · simp only [if_pos hes]
          rfl
        · simp only [if_neg hes]
          rfl

theorem readList_listing (op : Operator) (position : Nat) (hop : op.relation = .oneOf)
    (hne : es ≠ []) :
    Literal.readList op (bracketed (es.map written)) position =
      if es.any showsBracket then SyntaxError.near .nestedList (listing es) position
      else .ok (es.map value) := by
  have hparts : ∀ part ∈ es.map written, Scan.Passes (Scan.cuts ',') 0 part := by
    intro part hpart
    obtain ⟨e, -, rfl⟩ := List.mem_map.mp hpart
    exact e.passes_cuts
  rw [Literal.readList_bracketed op position (by simpa using hne) hparts, readElements_written,
    listing]
  by_cases hes : es.any showsBracket
  · simp only [if_pos hes]
    rfl
  · simp only [if_neg hes, ok_bind, hop]
    rfl

end QuotedElement

namespace Query

open QuotedElement (listing showsBracket toList_listing value)

variable {kind : EntityKind} {type : FieldType} {name opName : String} {op : Operator}
  {es : List QuotedElement}

theorem ofQuery_listing (hname : Field.IsWritten kind type name) (hop : op.IsNamed opName)
    (es : List QuotedElement) :
    Token.ofQuery (filterText name (opName ++ ":") (listing es)) =
      .ok [⟨.fieldExpr, filterText name (opName ++ ":") (listing es), 0⟩] := by
  apply ofQuery_bracketed hname hop
  intro part hpart
  obtain ⟨e, -, rfl⟩ := List.mem_map.mp hpart
  exact e.passes_stopsAt

/-- The filter of a list of quoted texts. -/
theorem ofToken_listing (hname : Field.IsWritten kind type name) (hop : op.IsNamed opName)
    (hlist : op.relation = .oneOf) (hne : es ≠ []) :
    FilterClause.ofToken kind ⟨.fieldExpr, filterText name (opName ++ ":") (listing es), 0⟩ =
      if es.any showsBracket then
        SyntaxError.near .nestedList (listing es) (name.toList.length + opName.toList.length + 2)
      else .ok ⟨Field.canonical name, op, .list (es.map value)⟩ := by
  have hchars := toList_filterText name (opName ++ ":") (listing es)
  rw [Operator.toList_append_colon, toList_listing] at hchars
  have htakes : op.relation.takesList := by
    rw [hlist]
    rfl
  have hadmits : op.relation.admits type := by
    rw [hlist]
    rfl
  have hposition : 0 + name.toList.length + 1 + opName.toList.length + 1 =
      name.toList.length + opName.toList.length + 2 := by
    omega
  rw [FilterClause.ofToken_list hname hop htakes (Literal.bracketed_ne_nil _) hchars,
    QuotedElement.readList_listing _ _ hlist hne]
  dsimp only
  rw [hposition]
  by_cases hes : es.any showsBracket
  · simp only [if_pos hes]
    rfl
  · simp only [if_neg hes, ok_bind, if_pos hadmits]
    simp [FilterClause.checkOperand, hlist, Relation.isRanged, Relation.isOrdering, bind,
      Except.bind, pure, Except.pure]

/-- A list of quoted texts is read as these texts, unless one of them shows a bracket: then it is
refused as a list in a list. -/
theorem quoted_list_is_kept (kind : EntityKind) (type : FieldType) (name opName : String)
    (op : Operator) (es : List QuotedElement) (hname : Field.IsWritten kind type name)
    (hop : op.IsNamed opName) (hlist : op.relation = .oneOf) (hne : es ≠ []) :
    ((∀ e ∈ es, '[' ∉ e.text.toList ∧ ']' ∉ e.text.toList) →
      ReadsAs kind (filterText name (opName ++ ":") (listing es))
        ⟨Field.canonical name, op, .list (es.map value)⟩) ∧
    ((∃ e ∈ es, '[' ∈ e.text.toList ∨ ']' ∈ e.text.toList) →
      read kind (filterText name (opName ++ ":") (listing es)) =
        .error ⟨.nestedList, some (listing es),
          some (name.toList.length + opName.toList.length + 2)⟩) := by
  have htoken := ofQuery_listing hname hop es
  have hclause := ofToken_listing hname hop hlist hne
  constructor
  · intro h
    have hnone : ¬es.any showsBracket := by
      simpa [showsBracket] using h
    rw [readsAs_iff_ofToken htoken rfl, hclause, if_neg hnone]
    rfl
  · intro h
    have hsome : es.any showsBracket := by
      simpa [showsBracket] using h
    rw [read_of_token htoken rfl, hclause, if_pos hsome]
    rfl

theorem quoted_list_is_kept_two :
    Field.IsWritten .issue .array "tags" ∧ Relation.oneOf.holds.IsNamed "in" ∧
    ReadsAs .issue "tags:in:[\"a, b\" , \"c'd\"]"
      ⟨"tags", Relation.oneOf.holds, .list [.string "a, b", .string "c'd"]⟩ := by
  have htype : Field.type? .issue "tags" = some .array := by decide
  obtain ⟨hname, hcanonical⟩ := Field.isWritten_of_type? htype
  have hop : Relation.oneOf.holds.IsNamed "in" := ⟨by decide, by decide +kernel, by decide⟩
  have hblank : ∀ c ∈ [' '], Text.isBlank c := by
    intro c hc
    obtain rfl := List.mem_singleton.mp hc
    decide
  have hnothing : ∀ c ∈ ([] : List Char), Text.isBlank c := by simp
  have htext : filterText "tags" ("in" ++ ":")
      (listing [⟨[], "a, b", [' '], hnothing, hblank, by decide⟩,
        ⟨[' '], "c'd", [], hblank, hnothing, by decide⟩]) = "tags:in:[\"a, b\" , \"c'd\"]" := by
    rw [← String.toList_inj, toList_filterText, toList_listing]
    simp [QuotedElement.written, bracketed, quoted]
  have hread := (quoted_list_is_kept .issue .array "tags" "in" _ _ hname hop rfl
    (List.cons_ne_nil ⟨[], "a, b", [' '], hnothing, hblank, by decide⟩
      [⟨[' '], "c'd", [], hblank, hnothing, by decide⟩])).1 (by simp)
  rw [hcanonical, htext] at hread
  exact ⟨hname, hop, hread⟩

/-- A bracket between quotes is taken for one of a list. -/
theorem quoted_bracket_is_refused :
    readNamed "issues" (some "tags:in:[\"a[b\"]") =
      .error ⟨.nestedList, some "[\"a[b\"]", some 8⟩ := by
  have hkind : readKind "issues" = .ok .issue := by cbv
  have htokens : Token.ofQuery "tags:in:[\"a[b\"]" =
      .ok [⟨.fieldExpr, "tags:in:[\"a[b\"]", 0⟩] := by
    have hchars : "tags:in:[\"a[b\"]".toList = ['t', 'a', 'g', 's', ':', 'i', 'n', ':', '[', '"',
        'a', '[', 'b', '"', ']'] := rfl
    rw [Token.ofQuery_word hchars (by decide) rfl]
    cbv
  rw [readNamed, hkind, ok_bind]
  dsimp only
  rw [read, if_neg (by decide), htokens]
  cbv

end Query

end IssueQuery
