import IssueQuery.Proofs.Query.ClausePart

/-!
# The grammar of queries

A list of tokens is a query exactly if it is a filter part followed by a clause part in which no
kind of clause occurs twice.  The query keeps the filters as they are written, those behind a `NOT`
negated, the logic of their joiners, and the clauses, whose sequence does not matter.
-/

namespace IssueQuery.Query

open Outcome

/-- A text reads as a query if it is not blank and its tokens do. -/
theorem read_eq_ok_iff {kind : EntityKind} {text : String} {q : Query} :
    read kind text = .ok q ↔
      ¬Text.isBlankText text ∧
        ∃ tokens, Token.ofQuery text = .ok tokens ∧ ofTokens kind text tokens = .ok q := by
  unfold read
  by_cases hblank : Text.isBlankText text
  · simp [hblank]
  · rw [if_neg hblank, bind_eq_ok_iff]
    exact ⟨fun h => ⟨hblank, h⟩, And.right⟩

/-- The tokens of a query fall into written filters and written clauses, and the query keeps what
they write. -/
structure Comprises (q : Query) (tokens : List Token) (items : List FilterItem)
    (clauses : List Clause) (behind : List Token) : Prop where
  tokens : tokens = items.flatMap FilterItem.tokens ++ behind
  filterPart : FilterPart q.kind items q.logic
  clausePart : ClausePart q.kind clauses behind
  once : (clauses.map Clause.kind).Nodup
  filters : List.Forall₂ FilterItem.Contributes items q.filters
  trailer : ∀ c, q.trailer.Holds c ↔ c ∈ clauses

theorem Comprises.filters_eq {q : Query} {tokens behind : List Token} {items : List FilterItem}
    {clauses : List Clause} (h : q.Comprises tokens items clauses behind) :
    q.filters = items.map FilterItem.result :=
  FilterItem.forall₂_contributes_iff.mp h.filters

theorem not_holds_empty (c : Clause) : ¬({} : Trailer).Holds c := by
  cases c <;> simp [Trailer.Holds]

theorem not_has_empty (k : ClauseKind) : ({} : Trailer).has k = false := by
  cases k <;> rfl

/-- The trailer of a query is the one that its clauses make. -/
theorem Comprises.trailer_eq {q : Query} {tokens behind : List Token} {items : List FilterItem}
    {clauses : List Clause} (h : q.Comprises tokens items clauses behind) :
    q.trailer = clauses.foldl Trailer.set {} := by
  apply Trailer.ext_holds
  intro c
  rw [h.trailer, Trailer.holds_foldl_set h.once fun c _ => not_has_empty c.kind]
  simp [not_holds_empty]

theorem exists_comprises_of_ofTokens {kind : EntityKind} {text : String} {tokens : List Token}
    {q : Query} (h : ofTokens kind text tokens = .ok q) :
    (∃ items clauses behind, q.Comprises tokens items clauses behind) ∧
      q.kind = kind ∧ q.text = text := by
  obtain ⟨⟨s, behind⟩, hfilters, hs⟩ := bind_eq_ok_iff.mp h
  obtain ⟨trailer, htrailer, hq⟩ := bind_eq_ok_iff.mp hs
  cases hq
  obtain ⟨items, htokens, hpart, hresult, -⟩ := exists_filterPart_of_readFilters hfilters
  obtain ⟨clauses, hclauses, honce, -, rfl⟩ := exists_clausePart_of_readTrailer htrailer
  refine ⟨⟨items, clauses, behind, ?_⟩, rfl, rfl⟩
  exact {
    tokens := htokens
    filterPart := hpart
    clausePart := hclauses
    once := honce
    filters := FilterItem.forall₂_contributes_iff.mpr hresult
    trailer := by
      intro c
      rw [Trailer.holds_foldl_set honce fun c _ => not_has_empty c.kind]
      simp [not_holds_empty] }

theorem ofTokens_of_comprises {tokens behind : List Token} {q : Query} {items : List FilterItem}
    {clauses : List Clause} (h : q.Comprises tokens items clauses behind) :
    ofTokens q.kind q.text tokens = .ok q := by
  obtain ⟨s, hfilters, hresult, hlogic⟩ :=
    readFilters_of_filterPart h.filterPart h.clausePart.beginsClause
  have htrailer := readTrailer_of_clausePart h.clausePart (t := {}) h.once
    fun c _ => not_has_empty c.kind
  rw [ofTokens, h.tokens, hfilters, ok_bind]
  simp only [htrailer, ok_bind]
  rw [hresult, hlogic, ← h.filters_eq, ← h.trailer_eq]
  rfl

/-- The reader accepts exactly the lists of tokens that the grammar describes, and the query is the
one that they write. -/
theorem ofTokens_eq_ok_iff (kind : EntityKind) (text : String) (tokens : List Token) (q : Query) :
    ofTokens kind text tokens = .ok q ↔
      (∃ items clauses behind, q.Comprises tokens items clauses behind) ∧
        q.kind = kind ∧ q.text = text := by
  constructor
  · exact exists_comprises_of_ofTokens
  · rintro ⟨⟨items, clauses, behind, h⟩, rfl, rfl⟩
    exact ofTokens_of_comprises h

end IssueQuery.Query
