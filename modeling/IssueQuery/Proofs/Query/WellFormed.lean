import IssueQuery.Proofs.Query.Grammar
import IssueQuery.Proofs.Table

/-!
# Well-formed queries

Matching relies on what reading promises: the fields of a query are in the catalogue, its operators
suit the types of the fields, and its operands have the shape and the type that the operators ask
for.  The promise is followed through the steps that may change an operator, the shorthands for
ranges and wildcards, and through `NOT`, which changes it after the operand has been checked.
-/

namespace IssueQuery

open Outcome

/-! ## Well-formedness -/

/-- A single operand is a text or a number. -/
inductive Value.IsSingle : Value → Prop where
  | string (s : String) : IsSingle (.string s)
  | number (n : Number) : IsSingle (.number n)

namespace FilterClause

/-- The shape of the operand that a relation asks for: none, a list of single operands, of which a
range has two, or a single one. -/
inductive HasShape (r : Relation) : Value → Prop where
  | nothing : r.isValueless → HasShape r .null
  | list {items : List Value} : r.takesList → items ≠ [] → (∀ v ∈ items, v.IsSingle) →
      (r = .between → items.length = 2) → HasShape r (.list items)
  | single {v : Value} : ¬r.isValueless → ¬r.takesList → v.IsSingle → HasShape r v

/-- The operands that are compared by order can be read as what the field holds, and a truth value
is spelled as one. -/
structure SuitsType (type : FieldType) (r : Relation) (operand : Value) : Prop where
  number : type = .number → r.isRanged → ∀ v ∈ parts operand, v.toNumber?.isSome
  date : type = .date → r.isRanged →
    ∀ v ∈ parts operand, isTimeKeyword v ∨ v.toMoment?.isSome
  boolean : type = .boolean → r = .equal → operand = .string "true" ∨ operand = .string "false"

/-- A clause on records of a kind that matching can rely on. -/
structure WellFormed (kind : EntityKind) (c : FilterClause) : Prop where
  catalogued : c.operator ∈ Operator.all
  nothing_iff : c.operand = .null ↔ c.operator.relation.isValueless
  list_iff : (∃ items, c.operand = .list items) ↔ c.operator.relation.takesList
  list_items : ∀ items, c.operand = .list items →
    items ≠ [] ∧ (∀ v ∈ items, v.IsSingle) ∧
      (c.operator.relation = .between → items.length = 2)
  single : ¬c.operator.relation.isValueless → ¬c.operator.relation.takesList →
    c.operand.IsSingle
  typed : ∃ type, Field.type? kind c.field = some type ∧ c.operator.relation.admits type ∧
    SuitsType type c.operator.relation c.operand

theorem mem_all (op : Operator) : op ∈ Operator.all := by
  obtain ⟨relation, negated⟩ := op
  cases relation <;> cases negated <;> decide

theorem not_takesList_of_isValueless {r : Relation} (h : r.isValueless) : ¬r.takesList := by
  cases r <;> simp_all [Relation.isValueless, Relation.takesList]

theorem HasShape.eq_null_iff {r : Relation} {v : Value} (h : HasShape r v) :
    v = .null ↔ r.isValueless := by
  cases h with
  | nothing hr => simp [hr]
  | list hr => simpa using fun hv => not_takesList_of_isValueless hv hr
  | single hv _ hsingle => cases hsingle <;> simpa using hv

theorem HasShape.exists_list_iff {r : Relation} {v : Value} (h : HasShape r v) :
    (∃ items, v = .list items) ↔ r.takesList := by
  cases h with
  | nothing hr => simpa using not_takesList_of_isValueless hr
  | list hr => simp [hr]
  | single _ hr hsingle => cases hsingle <;> simpa using hr

/-- Well-formedness is what the steps of reading establish one after the other. -/
theorem wellFormed_of_hasShape {kind : EntityKind} {field : String} {operator : Operator}
    {operand : Value} {type : FieldType} (htype : Field.type? kind field = some type)
    (hadmits : operator.relation.admits type) (hshape : HasShape operator.relation operand)
    (hsuits : SuitsType type operator.relation operand) :
    WellFormed kind ⟨field, operator, operand⟩ where
  catalogued := mem_all operator
  nothing_iff := hshape.eq_null_iff
  list_iff := hshape.exists_list_iff
  list_items := by
    intro items hitems
    cases hitems
    cases hshape with
    | list _ hne hsingle htwo => exact ⟨hne, hsingle, htwo⟩
    | single _ _ hsingle => cases hsingle
  single := by
    intro hvalue hone
    cases hshape with
    | nothing hr => exact absurd hr hvalue
    | list hr => exact absurd hr hone
    | single _ _ hsingle => exact hsingle
  typed := ⟨type, htype, hadmits, hsuits⟩

/-- `NOT` keeps the relation, and nothing else in a clause depends on the operator. -/
theorem WellFormed.negate {kind : EntityKind} {c : FilterClause} (h : c.WellFormed kind) :
    c.negate.WellFormed kind where
  catalogued := mem_all c.negate.operator
  nothing_iff := h.nothing_iff
  list_iff := h.list_iff
  list_items := h.list_items
  single := h.single
  typed := h.typed

end FilterClause

/-- A query on records of a kind that execution can rely on. -/
structure Query.WellFormed (kind : EntityKind) (text : String) (q : Query) : Prop where
  kind_eq : q.kind = kind
  text_eq : q.text = text
  filters : ∀ c ∈ q.filters, c.WellFormed kind
  limit : ∀ n, q.trailer.limit = some n → 1 ≤ n
  order : ∀ o, q.trailer.order = some o → Field.isKnown kind o.field
  group : ∀ field, q.trailer.group = some field → Field.isKnown kind field

/-! ## Literals -/

namespace Literal

theorem isSingle_of_readScalar {raw : List Char} {position : Nat} {v : Value}
    (h : readScalar raw position = .ok v) : v.IsSingle := by
  unfold readScalar at h
  split at h
  · split at h
    · cases h
    · cases h
      exact .string _
  · split at h
    · cases h
    · split at h
      · cases h
        exact .number _
      · cases h
        exact .string _

theorem isSingle_of_readElements {raw : List Char} {start position : Nat}
    {elements : List (List Char)} {values : List Value}
    (h : readElements raw start position elements = .ok values) :
    (∀ v ∈ values, v.IsSingle) ∧ values.length = elements.length := by
  induction elements generalizing position values with
  | nil =>
      cases h
      simp
  | cons element elements ih =>
      rw [readElements] at h
      split at h
      · cases h
      · split at h
        · cases h
        · obtain ⟨v, hv, hrest⟩ := bind_eq_ok_iff.mp h
          obtain ⟨vs, hvs, hvalues⟩ := bind_eq_ok_iff.mp hrest
          cases hvalues
          obtain ⟨hsingle, hlength⟩ := ih hvs
          constructor
          · intro w hw
            rcases List.mem_cons.mp hw with rfl | hw
            · exact isSingle_of_readScalar hv
            · exact hsingle w hw
          · simp [hlength]

end Literal

/-- Splitting a text gives at least one part. -/
theorem Scan.splitFrom_ne_nil (s : Scan) (separator : Char) (limit : Option Nat)
    (cs : List Char) : s.splitFrom separator limit cs ≠ [] := by
  cases cs with
  | nil => simp [splitFrom]
  | cons c cs =>
      rw [splitFrom]
      split
      · simp
      · split <;> simp

/-- The list of an operator has elements, and the list of a range has two of them. -/
theorem Literal.items_of_readList {operator : Operator} {raw : List Char} {position : Nat}
    {values : List Value} (h : readList operator raw position = .ok values) :
    values ≠ [] ∧ (∀ v ∈ values, v.IsSingle) ∧
      (operator.relation = .between → values.length = 2) := by
  unfold readList at h
  split at h
  · cases h
  · obtain ⟨vs, hvs, hrest⟩ := bind_eq_ok_iff.mp h
    obtain ⟨hsingle, hlength⟩ := isSingle_of_readElements hvs
    split at hrest
    · cases hrest
    · rename_i hcount
      cases hrest
      refine ⟨?_, hsingle, fun hbetween => ?_⟩
      · rw [← List.length_pos_iff, hlength, List.length_pos_iff]
        exact Scan.splitFrom_ne_nil _ _ _ _
      · exact Decidable.not_not.mp fun hne => hcount ⟨hbetween, hne⟩

namespace FilterClause

/-! ## Operators -/

/-- No symbol stands for an operator without an operand. -/
theorem not_isValueless_of_symbols {symbol : String} {operator : Operator}
    (h : Operator.symbols.lookup symbol = some operator) : ¬operator.relation.isValueless := by
  have hall : ∀ p ∈ Operator.symbols, ¬p.2.relation.isValueless := by decide
  exact hall (symbol, operator) (Table.mem_of_lookup h)

theorem raw_eq_none_iff_of_splitSymbol {symbol rest : List Char} {position : Nat} {split : Split}
    (h : splitSymbol symbol rest position = .ok split) :
    split.raw = none ↔ split.operator.relation.isValueless := by
  unfold splitSymbol at h
  split at h
  · cases h
  · rename_i operator hlookup
    have hvalue := not_isValueless_of_symbols hlookup
    dsimp only at h
    -- A colon may follow the symbol.
    split at h
    all_goals
      split at h
      · cases h
      · cases h
        simpa using hvalue

theorem raw_eq_none_iff_of_splitName {rest : List Char} {position : Nat} {split : Split}
    (h : splitName rest position = .ok split) :
    split.raw = none ↔ split.operator.relation.isValueless := by
  have hequal : ¬Relation.equal.isValueless := by decide
  unfold splitName at h
  dsimp only at h
  split at h
  · split at h
    · cases h
    · rename_i hvalue
      split at h
      · cases h
      · cases h
        simpa using hvalue
  · split at h
    · cases h
    · cases h
      simpa using hequal
  · split at h
    · rename_i hvalueless
      cases h
      simpa using hvalueless
    · cases h
      simpa using hequal
  · cases h
    simpa using hequal

/-- The text of an operand is there exactly for the operators that take one. -/
theorem raw_eq_none_iff_of_splitOperator {rest : List Char} {position : Nat} {split : Split}
    (h : splitOperator rest position = .ok split) :
    split.raw = none ↔ split.operator.relation.isValueless := by
  unfold splitOperator at h
  dsimp only at h
  split at h
  · cases h
  · split at h
    · exact raw_eq_none_iff_of_splitName h
    · exact raw_eq_none_iff_of_splitSymbol h

/-! ## Operands -/

theorem hasShape_of_readRange {raw low high : List Char} {position : Nat} {operator : Operator}
    {v : Value} (h : readRange raw low high position = .ok (operator, v)) :
    HasShape operator.relation v := by
  unfold readRange at h
  split at h
  · cases h
  · obtain ⟨a, ha, hrest⟩ := bind_eq_ok_iff.mp h
    obtain ⟨b, hb, hpair⟩ := bind_eq_ok_iff.mp hrest
    cases hpair
    have hsingle : ∀ v ∈ [a, b], v.IsSingle := by
      simpa using ⟨Literal.isSingle_of_readScalar ha, Literal.isSingle_of_readScalar hb⟩
    exact .list rfl (by simp) hsingle fun _ => rfl

theorem hasShape_of_readWildcard {field : String} {raw : List Char} {position : Nat}
    {operator : Operator} {v : Value} (h : readWildcard field raw position = .ok (operator, v)) :
    HasShape operator.relation v := by
  unfold readWildcard at h
  split at h
  · split at h
    · cases h
      exact .single (by decide) (by decide) (.string _)
    · cases h
      exact .nothing rfl
  · dsimp only at h
    split at h
    · cases h
    · obtain ⟨text, htext, hpair⟩ := bind_eq_ok_iff.mp h
      cases hpair
      -- Whichever ends the stars stand at, the relation is one of texts.
      cases raw.head? == some '*' <;> cases raw.getLast? == some '*'
      all_goals exact .single (by decide) (by decide) (.string _)

/-- Every operand has the shape that its operator asks for, also where a shorthand stands for
another operator. -/
theorem hasShape_of_readOperand {field : String} {split : Split} {operator : Operator}
    {v : Value} (hraw : split.raw = none ↔ split.operator.relation.isValueless)
    (h : readOperand field split = .ok (operator, v)) : HasShape operator.relation v := by
  unfold readOperand at h
  split at h
  · rename_i hnone
    cases h
    exact .nothing (hraw.mp hnone)
  · rename_i raw hsome
    have hvalue : ¬split.operator.relation.isValueless := by
      rw [← hraw, hsome]
      simp
    split at h
    · rename_i htakes
      obtain ⟨items, hitems, hpair⟩ := bind_eq_ok_iff.mp h
      cases hpair
      obtain ⟨hne, hsingle, htwo⟩ := Literal.items_of_readList hitems
      exact .list htakes hne hsingle htwo
    · rename_i htakes
      have hscalar : ∀ {raw position},
          (do return (split.operator, ← Literal.readScalar raw position)) =
            Except.ok (operator, v) →
          HasShape operator.relation v := by
        intro raw position hread
        obtain ⟨w, hw, hpair⟩ := bind_eq_ok_iff.mp hread
        cases hpair
        exact .single hvalue htakes (Literal.isSingle_of_readScalar hw)
      split at h
      · cases h
      · split at h
        · split at h
          · exact hasShape_of_readRange h
          · split at h
            · exact hasShape_of_readWildcard h
            · exact hscalar h
        · exact hscalar h

/-- What passes the check suits the type of the field and has still the shape that its operator
asks for. -/
theorem suitsType_of_checkOperand {field : String} {type : FieldType} {operator : Operator}
    {operand v : Value} {token : Token} (hshape : HasShape operator.relation operand)
    (h : checkOperand field type operator operand token = .ok v) :
    HasShape operator.relation v ∧ SuitsType type operator.relation v := by
  unfold checkOperand at h
  dsimp only at h
  split at h
  · cases h
  · rename_i hnumber
    split at h
    · cases h
    · rename_i hdate
      split at h
      · rename_i hboolean
        have hsingle : ∀ s, HasShape operator.relation (.string s) := by
          intro s
          rw [hboolean.2]
          exact .single (by decide) (by decide) (.string s)
        have hsuits : ∀ s, s = "true" ∨ s = "false" →
            SuitsType type operator.relation (.string s) := by
          intro s hs
          rw [hboolean.1, hboolean.2]
          exact {
            number := by simp
            date := by simp
            boolean := by simpa using hs }
        split at h
        · split at h
          · rename_i hs
            cases h
            exact ⟨hsingle _, hsuits _ hs⟩
          · cases h
        · cases h
      · rename_i hboolean
        cases h
        refine ⟨hshape, ?_⟩
        exact {
          number := by
            intro htype hranged w hw
            have hall := List.any_eq_false.mp
              (Bool.eq_false_iff.mpr fun hany => hnumber ⟨htype, hranged, hany⟩) w hw
            simpa [Option.isSome_iff_ne_none] using hall
          date := by
            intro htype hranged w hw
            have hall := List.any_eq_false.mp
              (Bool.eq_false_iff.mpr fun hany => hdate ⟨htype, hranged, hany⟩) w hw
            simpa [← Bool.not_eq_true, Decidable.imp_iff_not_or, Option.isSome_iff_ne_none]
              using hall
          boolean := fun htype hequal => absurd ⟨htype, hequal⟩ hboolean }

/-- Every single filter that the reader accepts is well formed. -/
theorem wellFormed_of_ofToken {kind : EntityKind} {token : Token} {c : FilterClause}
    (h : ofToken kind token = .ok c) : c.WellFormed kind := by
  unfold ofToken at h
  obtain ⟨split, hsplit, hrest⟩ := bind_eq_ok_iff.mp h
  dsimp only at hrest
  split at hrest
  · cases hrest
  · rename_i type htype
    obtain ⟨⟨operator, operand⟩, hoperand, hchecked⟩ := bind_eq_ok_iff.mp hrest
    dsimp only at hchecked
    split at hchecked
    · rename_i hadmits
      obtain ⟨v, hv, hclause⟩ := bind_eq_ok_iff.mp hchecked
      rw [pure_eq_ok_iff] at hclause
      subst hclause
      have hraw := raw_eq_none_iff_of_splitOperator hsplit
      have hshape := hasShape_of_readOperand hraw hoperand
      obtain ⟨hshape', hsuits⟩ := suitsType_of_checkOperand hshape hv
      exact wellFormed_of_hasShape htype hadmits hshape' hsuits
    · cases hchecked

end FilterClause

namespace Query

/-! ## Queries -/

theorem FilterItem.IsWritten.wellFormed_result {kind : EntityKind} {i : FilterItem}
    (h : i.IsWritten kind) : i.result.WellFormed kind := by
  have hclause := FilterClause.wellFormed_of_ofToken h.clause
  unfold FilterItem.result
  split
  · exact hclause.negate
  · exact hclause

/-- What a written clause says is allowed. -/
theorem ClausePart.written_of_mem {kind : EntityKind} {clauses : List Clause}
    {tokens : List Token} (h : ClausePart kind clauses tokens) {c : Clause} (hc : c ∈ clauses) :
    ∃ tokens', c.Written kind tokens' := by
  induction h with
  | nil => cases hc
  | cons hclause _ ih =>
      rcases List.mem_cons.mp hc with rfl | hc
      · exact ⟨_, hclause⟩
      · exact ih hc

theorem wellFormed_of_ofTokens {kind : EntityKind} {text : String} {tokens : List Token}
    {q : Query} (h : ofTokens kind text tokens = .ok q) : q.WellFormed kind text := by
  obtain ⟨⟨items, clauses, behind, hq⟩, hkind, htext⟩ := exists_comprises_of_ofTokens h
  subst hkind
  have hwritten : ∀ c, q.trailer.Holds c → ∃ tokens', c.Written q.kind tokens' := fun c hc =>
    hq.clausePart.written_of_mem ((hq.trailer c).mp hc)
  exact {
    kind_eq := rfl
    text_eq := htext
    filters := by
      intro c hc
      rw [hq.filters_eq] at hc
      obtain ⟨i, hi, rfl⟩ := List.mem_map.mp hc
      exact (hq.filterPart.written i hi).wellFormed_result
    limit := by
      intro n hn
      obtain ⟨tokens', hlimit⟩ := hwritten (.limit n) hn
      cases hlimit with
      | limit _ _ _ hpos => exact hpos
    order := by
      intro o ho
      obtain ⟨tokens', horder⟩ := hwritten (.order o) ho
      cases horder with
      | order _ _ _ hknown => exact hknown
      | directed _ _ _ hknown => exact hknown
    group := by
      intro field hfield
      obtain ⟨tokens', hgroup⟩ := hwritten (.group field) hfield
      cases hgroup with
      | group _ _ _ hknown => exact hknown }

/-- Reading a text gives a syntax error or a well-formed query. -/
theorem read_wellFormed (kind : EntityKind) (text : String) :
    (∃ e, read kind text = .error e) ∨
      ∃ q, read kind text = .ok q ∧ q.WellFormed kind text := by
  cases hread : read kind text with
  | error e => exact Or.inl ⟨e, rfl⟩
  | ok q =>
      right
      obtain ⟨-, tokens, -, htokens⟩ := read_eq_ok_iff.mp hread
      exact ⟨q, rfl, wellFormed_of_ofTokens htokens⟩

end Query

end IssueQuery
