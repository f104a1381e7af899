import IssueQuery.Proofs.Query.Concatenation
import IssueQuery.Proofs.Query.Grammar
import IssueQuery.Proofs.Query.Position
import IssueQuery.Proofs.Query.Single

/-!
# Joining queries that consist of filters

A query without clauses for order, grouping and limit is a filter part and nothing else.  Such
queries can be put together as texts: a `NOT` in front of one, or a joiner between two of them,
gives the query that their filter parts make together.  The second text is moved along, which
changes the positions of its tokens and nothing that they mean.
-/

namespace IssueQuery.Query

open Outcome

/-! ## Moving filters along -/

namespace FilterItem

/-- A written filter that stands `k` characters further on. -/
def shift (k : Nat) (i : FilterItem) : FilterItem where
  joiner := i.joiner.map (Token.shift k)
  negation := i.negation.map (Token.shift k)
  expr := i.expr.shift k
  clause := i.clause

theorem tokens_shift (k : Nat) (i : FilterItem) :
    (i.shift k).tokens = i.tokens.map (Token.shift k) := by
  cases hj : i.joiner <;> cases hn : i.negation <;> simp [tokens, shift, hj, hn]

theorem tokens_ne_nil (i : FilterItem) : i.tokens ≠ [] := by
  simp [tokens]

theorem negation_eq_none_of_tokens {t : Token} (i : FilterItem) (h : i.tokens = [t]) :
    i.negation = none := by
  have hlength := congrArg List.length h
  cases hn : i.negation with
  | none => rfl
  | some n =>
      simp [tokens, hn] at hlength

theorem flatMap_tokens_shift (k : Nat) (items : List FilterItem) :
    (items.map (shift k)).flatMap tokens = (items.flatMap tokens).map (Token.shift k) := by
  induction items with
  | nil => rfl
  | cons i items ih =>
      rw [List.map_cons, List.flatMap_cons, tokens_shift, ih, List.flatMap_cons, List.map_append]

@[simp]
theorem result_shift (k : Nat) (i : FilterItem) : (i.shift k).result = i.result := by
  simp [result, shift]

theorem IsWritten.shift {kind : EntityKind} {i : FilterItem} (h : i.IsWritten kind) (k : Nat) :
    (i.shift k).IsWritten kind where
  joiner := by
    intro t ht
    obtain ⟨j, hj, rfl⟩ := Option.map_eq_some_iff.mp ht
    exact h.joiner j hj
  negation := by
    intro t ht
    obtain ⟨n, hn, rfl⟩ := Option.map_eq_some_iff.mp ht
    exact h.negation n hn
  expr := h.expr
  clause := FilterClause.ofToken_congr (i.expr.text_shift k).symm h.clause

/-- A written filter with a joiner put in front of it. -/
def withJoiner (j : Token) (i : FilterItem) : FilterItem :=
  { i with joiner := some j }

/-- A written filter with a `NOT` put in front of its expression. -/
def withNegation (n : Token) (i : FilterItem) : FilterItem :=
  { i with negation := some n }

theorem tokens_withJoiner {i : FilterItem} (h : i.joiner = none) (j : Token) :
    (i.withJoiner j).tokens = j :: i.tokens := by
  simp [tokens, withJoiner, h]

theorem tokens_withNegation {i : FilterItem} (hjoiner : i.joiner = none)
    (hnegation : i.negation = none) (n : Token) : (i.withNegation n).tokens = n :: i.tokens := by
  simp [tokens, withNegation, hjoiner, hnegation]

@[simp]
theorem result_withJoiner (i : FilterItem) (j : Token) :
    (i.withJoiner j).result = i.result := rfl

theorem result_withNegation {i : FilterItem} (h : i.negation = none) (n : Token) :
    (i.withNegation n).result = i.result.negate := by
  simp [result, withNegation, h]

theorem IsWritten.withJoiner {kind : EntityKind} {i : FilterItem} (h : i.IsWritten kind)
    {j : Token} (hj : j.kind = .and ∨ j.kind = .or) : (i.withJoiner j).IsWritten kind where
  joiner := by
    intro t ht
    cases ht
    exact hj
  negation := h.negation
  expr := h.expr
  clause := h.clause

theorem IsWritten.withNegation {kind : EntityKind} {i : FilterItem} (h : i.IsWritten kind)
    {n : Token} (hn : n.kind = .not) : (i.withNegation n).IsWritten kind where
  joiner := h.joiner
  negation := by
    intro t ht
    cases ht
    exact hn
  expr := h.expr
  clause := h.clause

end FilterItem

theorem joinerLogic_shift (k : Nat) (joiner : Option Token) :
    joinerLogic (joiner.map (Token.shift k)) = joinerLogic joiner := by
  cases joiner with
  | none => rfl
  | some j =>
      obtain ⟨kind, text, position⟩ := j
      cases kind <;> rfl

theorem FilterPart.shift {kind : EntityKind} {items : List FilterItem} {logic : Logic}
    (h : FilterPart kind items logic) (k : Nat) :
    FilterPart kind (items.map (FilterItem.shift k)) logic where
  written := by
    intro i hi
    obtain ⟨i', hi', rfl⟩ := List.mem_map.mp hi
    exact (h.written i' hi').shift k
  first := by
    intro i hi
    rw [List.head?_map] at hi
    obtain ⟨i', hi', rfl⟩ := Option.map_eq_some_iff.mp hi
    simp [FilterItem.shift, h.first i' hi']
  joined := by
    intro i hi
    rw [← List.map_tail] at hi
    obtain ⟨i', hi', rfl⟩ := List.mem_map.mp hi
    rw [FilterItem.joins_iff, ← FilterItem.joins_iff.mp (h.joined i' hi')]
    exact joinerLogic_shift k i'.joiner
  single := by simpa using h.single

/-- Two filter parts make one with a joiner between them, if the joiners on both sides have the
logic of the one in the middle. -/
theorem FilterPart.join {kind : EntityKind} {items items' : List FilterItem} {i : FilterItem}
    {logic logic' : Logic} {j : Token} (h : FilterPart kind items logic)
    (h' : FilterPart kind (i :: items') logic') (hne : items ≠ [])
    (hj : j.kind = .and ∨ j.kind = .or)
    (hlogic : 1 < items.length → logic = joinerLogic (some j))
    (hlogic' : 1 < (i :: items').length → logic' = joinerLogic (some j)) :
    FilterPart kind (items ++ i.withJoiner j :: items') (joinerLogic (some j)) := by
  apply h.append
  · intro m hm
    rcases List.mem_cons.mp hm with rfl | hm
    · exact (h'.written i (by simp)).withJoiner hj
    · exact h'.written m (List.mem_cons_of_mem i hm)
  · intro m hm
    rcases List.mem_cons.mp hm with rfl | hm
    · rfl
    · exact h'.joinerLogic_eq hlogic' hm
  · exact hne
  · simp
  · exact hlogic

/-! ## Queries that consist of filters -/

/-- A text reads as a query that consists of the written filters `items`. -/
structure WritesFilters (kind : EntityKind) (text : String) (items : List FilterItem)
    (logic : Logic) : Prop where
  tokens : Token.ofQuery text = .ok (items.flatMap FilterItem.tokens)
  part : FilterPart kind items logic
  nonempty : items ≠ []

/-- A clause part that sets nothing is empty. -/
theorem ClausePart.eq_nil {kind : EntityKind} {tokens : List Token}
    (h : ClausePart kind [] tokens) : tokens = [] := by
  cases h
  rfl

theorem exists_writesFilters_of_read {kind : EntityKind} {text : String} {q : Query}
    (h : read kind text = .ok q) (htrailer : q.trailer = {}) :
    ∃ items, WritesFilters kind text items q.logic ∧ q.filters = items.map FilterItem.result := by
  obtain ⟨hblank, tokens, htokens, hq⟩ := read_eq_ok_iff.mp h
  obtain ⟨⟨items, clauses, behind, hparts⟩, rfl, -⟩ := exists_comprises_of_ofTokens hq
  have hclauses : clauses = [] := by
    rw [List.eq_nil_iff_forall_not_mem]
    intro c hc
    rw [← hparts.trailer, htrailer] at hc
    exact not_holds_empty c hc
  subst hclauses
  have hitems : tokens = items.flatMap FilterItem.tokens := by
    rw [hparts.tokens, hparts.clausePart.eq_nil, List.append_nil]
  refine ⟨items, ?_, hparts.filters_eq⟩
  exact {
    tokens := by rw [htokens, hitems]
    part := hparts.filterPart
    nonempty := by
      rintro rfl
      rw [hitems] at htokens
      exact hblank (Token.ofQuery_eq_nil_iff.mp htokens) }

/-- The query that written filters make. -/
def ofItems (kind : EntityKind) (text : String) (items : List FilterItem) (logic : Logic) :
    Query where
  kind := kind
  filters := items.map FilterItem.result
  logic := logic
  trailer := {}
  text := text

theorem WritesFilters.read {kind : EntityKind} {text : String} {items : List FilterItem}
    {logic : Logic} (h : WritesFilters kind text items logic) :
    Query.read kind text = .ok (ofItems kind text items logic) := by
  obtain ⟨i, is, rfl⟩ := List.exists_cons_of_ne_nil h.nonempty
  have hblank : ¬Text.isBlankText text := by
    rw [← Token.ofQuery_eq_nil_iff, h.tokens]
    simp [FilterItem.tokens_ne_nil]
  have hparts : (ofItems kind text (i :: is) logic).Comprises
      ((i :: is).flatMap FilterItem.tokens) (i :: is) [] [] := {
    tokens := (List.append_nil _).symm
    filterPart := h.part
    clausePart := .nil
    once := List.nodup_nil
    filters := FilterItem.forall₂_contributes_iff.mpr rfl
    trailer := by simpa [ofItems] using not_holds_empty }
  exact read_eq_ok_iff.mpr ⟨hblank, _, h.tokens, ofTokens_of_comprises hparts⟩

/-- The tokens of two texts with a word between them. -/
theorem ofQuery_join {a b word : String} {as bs : List Token} {t : Token}
    (ha : Token.ofQuery a = .ok as) (hb : Token.ofQuery b = .ok bs)
    (hword : Token.ofQuery word = .ok [t]) :
    ∃ j k, Token.ofQuery (a ++ (" " ++ word ++ " ") ++ b) =
      .ok (as ++ t.shift j :: bs.map (Token.shift k)) := by
  have hblank : Text.isBlankText " " := by decide
  have hne : " " ≠ "" := by decide
  have hfront := Token.ofQuery_append ha hword hne hblank
  have hall := Token.ofQuery_append hfront hb hne hblank
  have htext : a ++ " " ++ word ++ " " ++ b = a ++ (" " ++ word ++ " ") ++ b := by
    simp only [String.append_assoc]
  rw [htext, List.append_assoc] at hall
  exact ⟨_, _, hall⟩

/-- Two queries of filters make one with a joiner between them. -/
theorem WritesFilters.join {kind : EntityKind} {a b word : String} {items items' : List FilterItem}
    {logic logic' : Logic} {t : Token} (h : WritesFilters kind a items logic)
    (h' : WritesFilters kind b items' logic') (hword : Token.ofQuery word = .ok [t])
    (ht : t.kind = .and ∨ t.kind = .or)
    (hlogic : 1 < items.length → logic = joinerLogic (some t))
    (hlogic' : 1 < items'.length → logic' = joinerLogic (some t)) :
    ∃ joined, WritesFilters kind (a ++ (" " ++ word ++ " ") ++ b) joined (joinerLogic (some t)) ∧
      joined.map FilterItem.result =
        items.map FilterItem.result ++ items'.map FilterItem.result := by
  obtain ⟨i, is, rfl⟩ := List.exists_cons_of_ne_nil h'.nonempty
  obtain ⟨j, k, htokens⟩ := ofQuery_join h.tokens h'.tokens hword
  have hshift : joinerLogic (some (t.shift j)) = joinerLogic (some t) :=
    joinerLogic_shift j (some t)
  have hfirst : (i.shift k).joiner = none := (h'.part.shift k).first (i.shift k) rfl
  have hpart := h.part.join (h'.part.shift k) h.nonempty (j := t.shift j) ht
    (by rw [hshift]; exact hlogic) (by rw [hshift]; simpa using hlogic')
  rw [hshift] at hpart
  refine ⟨_, ⟨?_, hpart, by simp⟩, ?_⟩
  · rw [htokens, ← FilterItem.flatMap_tokens_shift, List.flatMap_append, List.flatMap_cons,
      FilterItem.tokens_withJoiner hfirst]
    rfl
  · simp

/-! ## Single filters -/

theorem Clause.Written.two_le_length {kind : EntityKind} {clause : Clause} {tokens : List Token}
    (h : clause.Written kind tokens) : 2 ≤ tokens.length := by
  cases h <;> simp

theorem ClausePart.two_mul_length_le {kind : EntityKind} {clauses : List Clause}
    {tokens : List Token} (h : ClausePart kind clauses tokens) :
    2 * clauses.length ≤ tokens.length := by
  induction h with
  | nil => simp
  | cons hclause _ ih =>
      have := hclause.two_le_length
      rw [List.length_cons, List.length_append]
      omega

/-- A single token leaves no room for a clause. -/
theorem Comprises.trailer_eq_empty {q : Query} {tokens behind : List Token}
    {items : List FilterItem} {clauses : List Clause} (h : q.Comprises tokens items clauses behind)
    (hshort : tokens.length ≤ 1) : q.trailer = {} := by
  have hbehind := h.clausePart.two_mul_length_le
  rw [h.tokens, List.length_append] at hshort
  have hnone : clauses.length = 0 := by omega
  rw [h.trailer_eq, List.eq_nil_of_length_eq_zero hnone]
  rfl

/-- A query of a single token is a filter without a `NOT`. -/
theorem exists_item_of_read {kind : EntityKind} {text : String} {t : Token} {q : Query}
    (ht : Token.ofQuery text = .ok [t]) (h : read kind text = .ok q) :
    q.trailer = {} ∧ ∃ i, WritesFilters kind text [i] q.logic ∧ i.negation = none ∧
      q.filters = [i.result] := by
  have htrailer : q.trailer = {} := by
    obtain ⟨-, tokens, htokens, hq⟩ := read_eq_ok_iff.mp h
    rw [ht] at htokens
    cases htokens
    obtain ⟨⟨items, clauses, behind, hparts⟩, -, -⟩ := exists_comprises_of_ofTokens hq
    exact hparts.trailer_eq_empty (by simp)
  obtain ⟨items, hitems, hfilters⟩ := exists_writesFilters_of_read h htrailer
  obtain ⟨i, is, rfl⟩ := List.exists_cons_of_ne_nil hitems.nonempty
  have htokens : i.tokens ++ is.flatMap FilterItem.tokens = [t] := by
    have hall := hitems.tokens
    rw [ht, Except.ok.injEq, List.flatMap_cons] at hall
    exact hall.symm
  rcases List.append_eq_singleton_iff.mp htokens with ⟨hnil, -⟩ | ⟨hone, hnil⟩
  · exact absurd hnil i.tokens_ne_nil
  · have his : is = [] := by
      rw [List.eq_nil_iff_forall_not_mem]
      intro k hk
      exact k.tokens_ne_nil (List.flatMap_eq_nil_iff.mp hnil k hk)
    subst his
    exact ⟨htrailer, i, hitems, i.negation_eq_none_of_tokens hone, hfilters⟩

/-- A single token that spells a clause reads as the query of this clause. -/
theorem read_of_ofToken {kind : EntityKind} {text : String} {t : Token} {c : FilterClause}
    (ht : Token.ofQuery text = .ok [t]) (hkind : t.kind = .fieldExpr)
    (hc : FilterClause.ofToken kind t = .ok c) :
    read kind text = .ok { kind, filters := [c], logic := .all, trailer := {}, text } := by
  rw [read_of_token ht hkind, hc]
  rfl

/-- A `NOT` in front of a single filter gives the opposite filter. -/
theorem WritesFilters.negate {kind : EntityKind} {text : String} {i : FilterItem} {logic : Logic}
    (h : WritesFilters kind text [i] logic) (hnegation : i.negation = none) :
    ∃ i', WritesFilters kind ("NOT" ++ " " ++ text) [i'] logic ∧
      i'.result = i.result.negate := by
  have hblank : Text.isBlankText " " := by decide
  have hne : " " ≠ "" := by decide
  have hitem : Token.ofQuery text = .ok i.tokens := by
    rw [h.tokens, List.flatMap_singleton]
  obtain ⟨k, htokens⟩ : ∃ k, Token.ofQuery ("NOT" ++ " " ++ text) =
      .ok (⟨.not, "NOT", 0⟩ :: i.tokens.map (Token.shift k)) :=
    ⟨_, Token.ofQuery_append Token.ofQuery_not hitem hne hblank⟩
  have hjoiner : (i.shift k).joiner = none := (h.part.shift k).first (i.shift k) rfl
  have hfree : (i.shift k).negation = none := by simp [FilterItem.shift, hnegation]
  have hwritten := (h.part.written i (by simp)).shift k
  refine ⟨(i.shift k).withNegation ⟨.not, "NOT", 0⟩, ?_, ?_⟩
  · exact {
      tokens := by
        rw [htokens, List.flatMap_singleton, FilterItem.tokens_withNegation hjoiner hfree,
          FilterItem.tokens_shift]
      part := by
        rw [h.part.single (by simp)]
        exact .singleton (hwritten.withNegation rfl) hjoiner
      nonempty := by simp }
  · rw [FilterItem.result_withNegation hfree, FilterItem.result_shift]

end IssueQuery.Query
