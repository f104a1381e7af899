import IssueQuery.Proofs.Query.ClausePart
import IssueQuery.Proofs.Query.Concatenation

/-!
# Queries of a single filter

A query of one word that has the form of a filter is read exactly as this filter is.  A query is
faulty as soon as its first word is.
-/

namespace IssueQuery.Query

open Outcome

variable {kind : EntityKind} {text : String} {t : Token} {tokens : List Token} {c : FilterClause}
  {q : Query}

/-- A query with a token is not blank, and so it is read as its tokens are. -/
theorem read_of_ofQuery (ht : Token.ofQuery text = .ok (t :: tokens)) :
    read kind text = ofTokens kind text (t :: tokens) := by
  have hblank : ¬Text.isBlankText text := by
    rw [← Token.ofQuery_eq_nil_iff, ht]
    simp
  rw [read, if_neg hblank, ht, ok_bind]

/-! ## A single filter -/

/-- The query of a single filter. -/
def ofFilter (kind : EntityKind) (c : FilterClause) (text : String) : Query where
  kind := kind
  filters := [c]
  logic := .all
  trailer := {}
  text := text

/-- A text is read as the query of a single filter. -/
def ReadsAs (kind : EntityKind) (text : String) (c : FilterClause) : Prop :=
  read kind text = .ok (ofFilter kind c text)

/-- A query of a single filter is read as this filter is. -/
theorem read_of_token (ht : Token.ofQuery text = .ok [t]) (hkind : t.kind = .fieldExpr) :
    read kind text = (FilterClause.ofToken kind t).map (ofFilter kind · text) := by
  have hfilters : readFilters kind {} [t] =
      (FilterClause.ofToken kind t).map fun c => ({ filters := [c] }, []) := by
    rw [readFilters, hkind]
    dsimp only [FilterState.addFilter, agreedLogic]
    cases FilterClause.ofToken kind t with
    | error e => rfl
    | ok c => rfl
  rw [read_of_ofQuery ht, ofTokens, hfilters]
  cases FilterClause.ofToken kind t with
  | error e => rfl
  | ok c =>
      simp only [Except.map, ok_bind]
      rw [readTrailer_nil]
      rfl

theorem readsAs_iff_ofToken (ht : Token.ofQuery text = .ok [t]) (hkind : t.kind = .fieldExpr) :
    ReadsAs kind text c ↔ (FilterClause.ofToken kind t).toOption = some c := by
  rw [ReadsAs, read_of_token ht hkind]
  cases FilterClause.ofToken kind t with
  | error e => simp [Except.map, Except.toOption]
  | ok c => simp [Except.map, Except.toOption, ofFilter]

/-- If a query of a single filter is read, it is read as some filter. -/
theorem exists_readsAs (ht : Token.ofQuery text = .ok [t]) (hkind : t.kind = .fieldExpr)
    (hq : read kind text = .ok q) : ∃ c, ReadsAs kind text c := by
  have hread := hq
  rw [read_of_token ht hkind] at hread
  cases hc : FilterClause.ofToken kind t with
  | error e =>
      rw [hc] at hread
      cases hread
  | ok c =>
      refine ⟨c, ?_⟩
      rw [readsAs_iff_ofToken ht hkind, hc]
      rfl

/-! ## Faulty first words -/

theorem exists_error_of_ofQuery {e : SyntaxError} (h : Token.ofQuery text = .error e) :
    ∃ e, read kind text = .error e := by
  rw [read]
  split
  · exact ⟨_, rfl⟩
  · rw [h]
    exact ⟨e, rfl⟩

/-- A query is faulty if its first token is. -/
theorem exists_error_of_first (ht : Token.ofQuery text = .ok (t :: tokens))
    (h : t.kind = .paren ∨ t.kind = .fieldExpr ∧ ∃ e, FilterClause.ofToken kind t = .error e) :
    ∃ e, read kind text = .error e := by
  have hfilters : ∃ e, readFilters kind {} (t :: tokens) = .error e := by
    rcases h with hparen | ⟨hfield, e, he⟩
    · refine ⟨⟨.parentheses, some t.text, some t.position⟩, ?_⟩
      rw [readFilters, hparen]
      dsimp only
      rw [strayToken, if_pos hparen]
      rfl
    · refine ⟨e, ?_⟩
      rw [readFilters, hfield]
      dsimp only [FilterState.addFilter, agreedLogic]
      rw [he]
      rfl
  obtain ⟨e, he⟩ := hfilters
  refine ⟨e, ?_⟩
  rw [read_of_ofQuery ht, ofTokens, he]
  rfl

end IssueQuery.Query
