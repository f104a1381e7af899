import IssueQuery.Proofs.Outcome
import IssueQuery.Proofs.Query.OperatorTable
import IssueQuery.Query.Reading
import Mathlib.Data.List.Forall2

/-!
# The filter part of a query

What the filters of a query look like as a list of tokens, said without following the reader, and
the proof that the reader accepts exactly these lists.

The reader of the filters is a machine that remembers a joiner and a `NOT` waiting for a filter.
Its invariant, `FilterState.Reflects`, ties the state to all tokens consumed so far.
-/

namespace IssueQuery.Query

open Outcome

/-! ## Written filters -/

/-- A filter as it is written: the joiner and the `NOT` in front of it, if they are there, and the
token of the expression with the clause that it spells. -/
structure FilterItem where
  joiner : Option Token
  negation : Option Token
  expr : Token
  clause : FilterClause

namespace FilterItem

/-- The tokens of a written filter. -/
def tokens (i : FilterItem) : List Token :=
  i.joiner.toList ++ i.negation.toList ++ [i.expr]

/-- A written filter contributes a clause: the one that it spells or, behind a `NOT`, the opposite
one. -/
def Contributes (i : FilterItem) (c : FilterClause) : Prop :=
  match i.negation with
  | none => c = i.clause
  | some _ => c.Opposes i.clause

/-- The clause that a written filter contributes. -/
def result (i : FilterItem) : FilterClause :=
  if i.negation.isSome then i.clause.negate else i.clause

theorem contributes_iff {i : FilterItem} {c : FilterClause} : i.Contributes c ↔ i.result = c := by
  unfold Contributes result
  cases i.negation with
  | none => exact eq_comm
  | some n => exact FilterClause.opposes_iff.trans eq_comm

theorem forall₂_contributes_iff {items : List FilterItem} {filters : List FilterClause} :
    List.Forall₂ Contributes items filters ↔ filters = items.map result := by
  have hcontributes : Contributes = fun i c => i.result = c := by
    funext i c
    exact propext contributes_iff
  rw [hcontributes, ← List.forall₂_map_left_iff (R := Eq), List.forall₂_eq_eq_eq]
  exact eq_comm

/-- A written filter stands behind a joiner of some logic: an `OR` if any filter is to hold, and an
`AND` or nothing if all are. -/
def Joins (i : FilterItem) (logic : Logic) : Prop :=
  logic = .any ↔ ∃ t ∈ i.joiner, t.kind = .or

theorem joins_iff {i : FilterItem} {logic : Logic} :
    i.Joins logic ↔ joinerLogic i.joiner = logic := by
  unfold Joins
  cases i.joiner with
  | none => cases logic <;> simp [joinerLogic]
  | some t =>
      obtain ⟨kind, text, position⟩ := t
      cases logic <;> cases kind <;> simp [joinerLogic]

/-- Every token of a written filter is of the kind that its place asks for, and the expression is
one that the reader of single filters accepts. -/
structure IsWritten (kind : EntityKind) (i : FilterItem) : Prop where
  joiner : ∀ t ∈ i.joiner, t.kind = .and ∨ t.kind = .or
  negation : ∀ t ∈ i.negation, t.kind = .not
  expr : i.expr.kind = .fieldExpr
  clause : FilterClause.ofToken kind i.expr = .ok i.clause

end FilterItem

/-- A filter part: the first filter has no joiner, and all others have joiners of one logic.  With
at most one filter, the logic is that of `AND`. -/
structure FilterPart (kind : EntityKind) (items : List FilterItem) (logic : Logic) : Prop where
  written : ∀ i ∈ items, i.IsWritten kind
  first : ∀ i ∈ items.head?, i.joiner = none
  joined : ∀ i ∈ items.tail, i.Joins logic
  single : items.length ≤ 1 → logic = .all

theorem FilterPart.nil (kind : EntityKind) : FilterPart kind [] .all where
  written := by simp
  first := by simp
  joined := by simp
  single := by simp

/-- All joiners of a filter part have a logic that it agrees with as soon as it has joiners. -/
theorem FilterPart.joinerLogic_eq {kind : EntityKind} {items : List FilterItem}
    {logic l : Logic} {i : FilterItem} (h : FilterPart kind items logic)
    (hagree : 1 < items.length → logic = l) (hi : i ∈ items.tail) : joinerLogic i.joiner = l := by
  have hlong : 1 < items.length := by
    have := List.length_pos_of_mem hi
    rw [List.length_tail] at this
    omega
  rw [FilterItem.joins_iff.mp (h.joined i hi), hagree hlong]

/-- Written filters may follow a filter part if all joiners have the same logic. -/
theorem FilterPart.append {kind : EntityKind} {items items' : List FilterItem}
    {logic l : Logic} (h : FilterPart kind items logic)
    (hwritten : ∀ i ∈ items', i.IsWritten kind) (hjoined : ∀ i ∈ items', joinerLogic i.joiner = l)
    (hne : items ≠ []) (hne' : items' ≠ []) (hagree : 1 < items.length → logic = l) :
    FilterPart kind (items ++ items') l where
  written := by
    intro i hi
    rcases List.mem_append.mp hi with hi | hi
    · exact h.written i hi
    · exact hwritten i hi
  first := by
    obtain ⟨j, js, rfl⟩ := List.exists_cons_of_ne_nil hne
    exact h.first
  joined := by
    intro i hi
    rw [List.tail_append_of_ne_nil hne] at hi
    apply FilterItem.joins_iff.mpr
    rcases List.mem_append.mp hi with hi | hi
    · exact h.joinerLogic_eq hagree hi
    · exact hjoined i hi
  single := by
    intro hshort
    have := List.length_pos_iff.mpr hne
    have := List.length_pos_iff.mpr hne'
    rw [List.length_append] at hshort
    omega

/-- The first filter stands alone. -/
theorem FilterPart.singleton {kind : EntityKind} {i : FilterItem} (hi : i.IsWritten kind)
    (hfirst : i.joiner = none) : FilterPart kind [i] .all where
  written := by
    intro j hj
    rw [List.mem_singleton.mp hj]
    exact hi
  first := by simpa using hfirst
  joined := by simp
  single := by simp

/-- Tokens that are empty or begin with the keyword of a clause. -/
def BeginsClause (tokens : List Token) : Prop :=
  ∀ t ∈ tokens.head?, ∃ c, t.kind = .clause c

/-! ## The machine that reads filters -/

/-- The state of the machine after the tokens `done`: they are a filter part, behind which a joiner
and a `NOT` may be waiting.  The logic is open as long as there is at most one filter. -/
structure FilterState.Reflects (kind : EntityKind) (done : List Token) (items : List FilterItem)
    (s : FilterState) : Prop where
  tokens : done = items.flatMap FilterItem.tokens ++ s.joiner.toList ++ s.negation.toList
  part : FilterPart kind items (s.logic.getD .all)
  filters : s.filters.reverse = items.map FilterItem.result
  undecided : s.logic = none ↔ items.length ≤ 1
  joiner : ∀ t ∈ s.joiner, (t.kind = .and ∨ t.kind = .or) ∧ items ≠ []
  negation : ∀ t ∈ s.negation, t.kind = .not

namespace FilterState

variable {kind : EntityKind} {done : List Token} {items : List FilterItem}
  {s s' : FilterState} {token : Token}

theorem Reflects.start : Reflects kind [] [] {} where
  tokens := rfl
  part := .nil kind
  filters := rfl
  undecided := by simp
  joiner := by simp
  negation := by simp

theorem Reflects.filters_eq_nil_iff (h : s.Reflects kind done items) :
    s.filters = [] ↔ items = [] := by
  rw [← List.reverse_eq_nil_iff, h.filters, List.map_eq_nil_iff]

/-- `NOT` waits for a filter. -/
theorem Reflects.addNegation (h : s.Reflects kind done items) (htoken : token.kind = .not)
    (hs : s.addNegation token = .ok s') : s'.Reflects kind (done ++ [token]) items := by
  unfold FilterState.addNegation at hs
  split at hs
  · cases hs
  · rename_i hfree
    cases hs
    rw [Bool.not_eq_true, Option.isSome_eq_false_iff, Option.isNone_iff_eq_none] at hfree
    exact {
      tokens := by simp [h.tokens, hfree]
      part := h.part
      filters := h.filters
      undecided := h.undecided
      joiner := h.joiner
      negation := by simpa using htoken }

/-- A joiner waits for the filter on its right side, which a `NOT` may still precede. -/
theorem Reflects.addJoiner (h : s.Reflects kind done items)
    (htoken : token.kind = .and ∨ token.kind = .or)
    (hs : s.addJoiner token = .ok s') : s'.Reflects kind (done ++ [token]) items := by
  unfold FilterState.addJoiner at hs
  split at hs
  · cases hs
  · rename_i hfree
    cases hs
    simp only [Bool.or_eq_true, List.isEmpty_iff, not_or, Bool.not_eq_true,
      Option.isSome_eq_false_iff, Option.isNone_iff_eq_none] at hfree
    obtain ⟨⟨hsome, hjoiner⟩, hnegation⟩ := hfree
    have hitems : items ≠ [] := fun hnil => hsome (h.filters_eq_nil_iff.mpr hnil)
    exact {
      tokens := by simp [h.tokens, hjoiner, hnegation]
      part := h.part
      filters := h.filters
      undecided := h.undecided
      joiner := by simpa using ⟨htoken, hitems⟩
      negation := h.negation }

end FilterState

/-- The first filter leaves the logic as it is; any other one fixes it to that of its joiner. -/
theorem agreedLogic_eq_ok_iff {s : FilterState} {token : Token} {logic : Option Logic} :
    agreedLogic s token = .ok logic ↔
      (s.filters = [] ∧ logic = s.logic) ∨
      (s.filters ≠ [] ∧ logic = some (joinerLogic s.joiner) ∧
        ∀ l ∈ s.logic, l = joinerLogic s.joiner) := by
  unfold agreedLogic
  by_cases hnil : s.filters = []
  · simpa [hnil] using eq_comm
  · cases hl : s.logic with
    | none => simpa [hnil] using eq_comm
    | some l =>
        by_cases hagree : l = joinerLogic s.joiner
        · simpa [hnil, hagree] using eq_comm
        · simp [hnil, hagree, SyntaxError.near]

namespace FilterState

variable {kind : EntityKind} {done : List Token} {items : List FilterItem}
  {s s' : FilterState} {token : Token}

/-- The item that a filter makes together with what waits for it. -/
def itemOf (s : FilterState) (token : Token) (clause : FilterClause) : FilterItem where
  joiner := s.joiner
  negation := s.negation
  expr := token
  clause := clause

theorem Reflects.isWritten_itemOf (h : s.Reflects kind done items)
    (htoken : token.kind = .fieldExpr) {clause : FilterClause}
    (hclause : FilterClause.ofToken kind token = .ok clause) :
    (s.itemOf token clause).IsWritten kind where
  joiner := fun t ht => (h.joiner t ht).1
  negation := h.negation
  expr := htoken
  clause := hclause

/-- A filter takes up the joiner and the `NOT` that wait for it. -/
theorem Reflects.addFilter (h : s.Reflects kind done items) (htoken : token.kind = .fieldExpr)
    (hs : s.addFilter kind token = .ok s') :
    ∃ clause, s'.Reflects kind (done ++ [token]) (items ++ [s.itemOf token clause]) := by
  unfold FilterState.addFilter at hs
  obtain ⟨logic, hlogic, hs⟩ := bind_eq_ok_iff.mp hs
  obtain ⟨clause, hclause, hs⟩ := bind_eq_ok_iff.mp hs
  cases hs
  refine ⟨clause, ?_⟩
  have hwritten := h.isWritten_itemOf htoken hclause
  have htokens : done ++ [token] =
      (items ++ [s.itemOf token clause]).flatMap FilterItem.tokens := by
    simp [h.tokens, FilterItem.tokens, itemOf]
  have hfilters : ((if s.negation.isSome then clause.negate else clause) :: s.filters).reverse =
      (items ++ [s.itemOf token clause]).map FilterItem.result := by
    simp [h.filters, FilterItem.result, itemOf]
  rcases agreedLogic_eq_ok_iff.mp hlogic with ⟨hnil, rfl⟩ | ⟨hne, rfl, hagree⟩
  · have hitems := h.filters_eq_nil_iff.mp hnil
    subst hitems
    have hopen : s.logic = none := h.undecided.mpr (by simp)
    have hfirst : s.joiner = none := by
      rw [Option.eq_none_iff_forall_not_mem]
      intro t ht
      exact (h.joiner t ht).2 rfl
    exact {
      tokens := by simpa using htokens
      part := by simpa [hopen] using FilterPart.singleton hwritten hfirst
      filters := hfilters
      undecided := by simp [hopen]
      joiner := by simp
      negation := by simp }
  · have hitems : items ≠ [] := fun hnil => hne (h.filters_eq_nil_iff.mpr hnil)
    have hlong : 1 < items.length → s.logic.getD .all = joinerLogic s.joiner := by
      intro hlt
      cases hl : s.logic with
      | none =>
          have := h.undecided.mp hl
          omega
      | some l => exact hagree l hl
    exact {
      tokens := by simpa using htokens
      part := by
        apply h.part.append
        · simpa using hwritten
        · simp [itemOf]
        · exact hitems
        · simp
        · exact hlong
      filters := hfilters
      undecided := by
        have := List.length_pos_iff.mpr hitems
        simp only [reduceCtorEq, false_iff, List.length_append, List.length_singleton]
        omega
      joiner := by simp
      negation := by simp }

theorem checkDone_eq_ok_iff {u : Unit} :
    s.checkDone = .ok u ↔ s.joiner = none ∧ s.negation = none := by
  unfold FilterState.checkDone
  cases hj : s.joiner with
  | some j => simp [SyntaxError.near]
  | none =>
      cases hn : s.negation with
      | some n => simp [SyntaxError.near]
      | none => simp

/-- The state of the machine at its end still reflects the tokens that it has consumed, and what is
left of them begins with the keyword of a clause. -/
theorem Reflects.readFilters {tokens rest : List Token} (h : s.Reflects kind done items)
    (hs : readFilters kind s tokens = .ok (s', rest)) :
    ∃ read items', tokens = read ++ rest ∧ s'.Reflects kind (done ++ read) items' ∧
      s'.joiner = none ∧ s'.negation = none ∧ BeginsClause rest := by
  induction tokens generalizing s done items with
  | nil =>
      obtain ⟨u, hdone, hs⟩ := bind_eq_ok_iff.mp hs
      obtain ⟨hjoiner, hnegation⟩ := checkDone_eq_ok_iff.mp hdone
      cases hs
      exact ⟨[], items, rfl, by simpa using h, hjoiner, hnegation, by simp [BeginsClause]⟩
  | cons token tokens ih =>
      -- Each token that the machine takes extends the tokens that its state reflects.
      have hstep : ∀ {t : FilterState} {items₁ : List FilterItem},
          t.Reflects kind (done ++ [token]) items₁ →
          Query.readFilters kind t tokens = .ok (s', rest) →
          ∃ read items', token :: tokens = read ++ rest ∧
            s'.Reflects kind (done ++ read) items' ∧
            s'.joiner = none ∧ s'.negation = none ∧ BeginsClause rest := by
        intro t items₁ ht hrun
        obtain ⟨read, items', htokens, hrest⟩ := ih ht hrun
        refine ⟨token :: read, items', by rw [htokens]; rfl, ?_⟩
        simpa using hrest
      rw [Query.readFilters] at hs
      split at hs
      · rename_i hkind
        obtain ⟨t, ht, hs⟩ := bind_eq_ok_iff.mp hs
        obtain ⟨clause, hreflects⟩ := h.addFilter hkind ht
        exact hstep hreflects hs
      · rename_i hkind
        obtain ⟨t, ht, hs⟩ := bind_eq_ok_iff.mp hs
        exact hstep (h.addNegation hkind ht) hs
      · rename_i hkind
        obtain ⟨t, ht, hs⟩ := bind_eq_ok_iff.mp hs
        exact hstep (h.addJoiner (Or.inl hkind) ht) hs
      · rename_i hkind
        obtain ⟨t, ht, hs⟩ := bind_eq_ok_iff.mp hs
        exact hstep (h.addJoiner (Or.inr hkind) ht) hs
      · rename_i clause hkind
        obtain ⟨u, hdone, hs⟩ := bind_eq_ok_iff.mp hs
        obtain ⟨hjoiner, hnegation⟩ := checkDone_eq_ok_iff.mp hdone
        cases hs
        exact ⟨[], items, rfl, by simpa using h, hjoiner, hnegation, by simp [BeginsClause, hkind]⟩
      · unfold strayToken at hs
        split at hs <;> cases hs

end FilterState

/-- What the machine accepts is a filter part, followed by nothing or by a clause. -/
theorem exists_filterPart_of_readFilters {kind : EntityKind} {tokens rest : List Token}
    {s : FilterState} (h : readFilters kind {} tokens = .ok (s, rest)) :
    ∃ items, tokens = items.flatMap FilterItem.tokens ++ rest ∧
      FilterPart kind items (s.logic.getD .all) ∧
      s.filters.reverse = items.map FilterItem.result ∧ BeginsClause rest := by
  obtain ⟨read, items, htokens, hs, hjoiner, hnegation, hrest⟩ :=
    FilterState.Reflects.start.readFilters h
  refine ⟨items, ?_, hs.part, hs.filters, hrest⟩
  have hread := hs.tokens
  rw [hjoiner, hnegation] at hread
  rw [htokens]
  simpa using hread

/-- The machine takes a written filter in one go, whatever follows it. -/
theorem readFilters_item {kind : EntityKind} {i : FilterItem} {filters : List FilterClause}
    {open? logic : Option Logic} {more : List Token} (hi : i.IsWritten kind)
    (hfirst : filters = [] → i.joiner = none)
    (hlogic : agreedLogic { filters, logic := open?, joiner := i.joiner, negation := i.negation }
      i.expr = .ok logic) :
    readFilters kind { filters, logic := open? } (i.tokens ++ more) =
      readFilters kind { filters := i.result :: filters, logic } more := by
  -- From the `NOT` on, with the joiner already waiting.
  have hexpr : ∀ negation, i.negation = negation →
      readFilters kind { filters, logic := open?, joiner := i.joiner }
        (negation.toList ++ i.expr :: more) =
      readFilters kind { filters := i.result :: filters, logic } more := by
    intro negation hn
    cases negation with
    | none =>
        rw [hn] at hlogic
        simp [readFilters, hi.expr, FilterState.addFilter, hlogic, hi.clause, ok_bind,
          FilterItem.result, hn, pure, Except.pure]
    | some n =>
        have hkind := hi.negation n (by rw [hn]; rfl)
        rw [hn] at hlogic
        simp [readFilters, hkind, FilterState.addNegation, hi.expr, FilterState.addFilter, hlogic,
          hi.clause, ok_bind, FilterItem.result, hn, pure, Except.pure]
  have htokens : i.tokens ++ more =
      i.joiner.toList ++ (i.negation.toList ++ i.expr :: more) := by
    simp [FilterItem.tokens]
  rw [htokens]
  cases hj : i.joiner with
  | none =>
      rw [hj] at hexpr
      exact hexpr i.negation rfl
  | some j =>
      have hne : filters ≠ [] := by
        intro hnil
        rw [hfirst hnil] at hj
        cases hj
      have hadd : FilterState.addJoiner { filters, logic := open? } j =
          .ok { filters, logic := open?, joiner := some j } := by
        simp [FilterState.addJoiner, hne]
      rw [hj] at hexpr
      rw [Option.toList_some, List.singleton_append, ← hexpr i.negation rfl]
      rcases hi.joiner j (by rw [hj]; rfl) with hkind | hkind
      · simp [readFilters, hkind, hadd, ok_bind]
      · simp [readFilters, hkind, hadd, ok_bind]

/-- Behind the first filter, written filters with joiners of one logic are taken one by one. -/
theorem readFilters_items {kind : EntityKind} {items : List FilterItem} {logic : Logic}
    {filters : List FilterClause} {open? : Option Logic} (more : List Token)
    (hne : filters ≠ []) (hopen : ∀ l ∈ open?, l = logic)
    (hwritten : ∀ i ∈ items, i.IsWritten kind)
    (hjoined : ∀ i ∈ items, joinerLogic i.joiner = logic) :
    ∃ logic', readFilters kind { filters, logic := open? }
        (items.flatMap FilterItem.tokens ++ more) =
      readFilters kind
        { filters := (items.map FilterItem.result).reverse ++ filters, logic := logic' } more ∧
      logic' = if items = [] then open? else some logic := by
  induction items generalizing filters open? with
  | nil => exact ⟨open?, rfl, by simp⟩
  | cons i items ih =>
      have hi := hwritten i (by simp)
      have hagreed : agreedLogic
          { filters, logic := open?, joiner := i.joiner, negation := i.negation } i.expr =
          .ok (some logic) := by
        rw [agreedLogic_eq_ok_iff]
        right
        rw [hjoined i (by simp)]
        exact ⟨hne, rfl, hopen⟩
      have hne' : i.result :: filters ≠ [] := by simp
      have hopen' : ∀ l ∈ some logic, l = logic := by simp
      obtain ⟨logic', hrun, hlogic'⟩ := ih hne' hopen'
        (fun j hj => hwritten j (by simp [hj])) (fun j hj => hjoined j (by simp [hj]))
      refine ⟨logic', ?_, by rw [hlogic']; simp⟩
      rw [List.flatMap_cons, List.append_assoc,
        readFilters_item hi (fun hnil => absurd hnil hne) hagreed, hrun]
      simp

/-- Behind a filter part, the machine stops at the first clause. -/
theorem readFilters_idle {kind : EntityKind} {s : FilterState} {rest : List Token}
    (hjoiner : s.joiner = none) (hnegation : s.negation = none) (hrest : BeginsClause rest) :
    readFilters kind s rest = .ok (s, rest) := by
  have hdone : s.checkDone = .ok () :=
    FilterState.checkDone_eq_ok_iff.mpr ⟨hjoiner, hnegation⟩
  cases rest with
  | nil => simp [readFilters, hdone, ok_bind, pure, Except.pure]
  | cons token tokens =>
      obtain ⟨clause, hkind⟩ := hrest token rfl
      simp [readFilters, hkind, hdone, ok_bind, pure, Except.pure]

/-- The machine accepts every filter part. -/
theorem readFilters_of_filterPart {kind : EntityKind} {items : List FilterItem} {logic : Logic}
    {rest : List Token} (h : FilterPart kind items logic) (hrest : BeginsClause rest) :
    ∃ s, readFilters kind {} (items.flatMap FilterItem.tokens ++ rest) = .ok (s, rest) ∧
      s.filters.reverse = items.map FilterItem.result ∧ s.logic.getD .all = logic := by
  cases items with
  | nil =>
      exact ⟨{}, readFilters_idle rfl rfl hrest, rfl, (h.single (by simp)).symm⟩
  | cons i items =>
      have hfirst : i.joiner = none := h.first i rfl
      have hagreed : agreedLogic { joiner := i.joiner, negation := i.negation } i.expr =
          .ok none := by
        rw [agreedLogic_eq_ok_iff]
        exact Or.inl ⟨rfl, rfl⟩
      have hne : [i.result] ≠ [] := by simp
      have hopen : ∀ l ∈ (none : Option Logic), l = logic := by simp
      obtain ⟨logic', hrun, hlogic'⟩ := readFilters_items rest hne hopen
        (fun j hj => h.written j (List.mem_cons_of_mem i hj))
        (fun j hj => FilterItem.joins_iff.mp (h.joined j hj))
      refine ⟨⟨(items.map FilterItem.result).reverse ++ [i.result], logic', none, none⟩,
        ?_, by simp, ?_⟩
      · rw [List.flatMap_cons, List.append_assoc,
          readFilters_item (h.written i (by simp)) (fun _ => hfirst) hagreed, hrun]
        exact readFilters_idle rfl rfl hrest
      · rw [hlogic']
        by_cases hnil : items = []
        · simp [hnil, h.single (by simp [hnil])]
        · simp [hnil]

end IssueQuery.Query
