import IssueQuery.Proofs.Match.Selection
import IssueQuery.Proofs.Query.Joining

/-!
# Queries joined as texts

Two queries that consist of filters can be written one behind the other with `AND` or `OR` between
them.  Provided that their own joiners say the same, the text is a query again, and it keeps the
records that both of them keep, or that one of them keeps.
-/

namespace IssueQuery

open Outcome

namespace Logic

variable {α : Type} {test : α → Bool} {as bs : List α}

/-- What two verdicts say together. -/
def merge : Logic → Bool → Bool → Bool
  | all => and
  | any => or

theorem join_append (logic : Logic) :
    logic.join test (as ++ bs) = logic.merge (logic.join test as) (logic.join test bs) := by
  cases logic with
  | all => exact List.all_append
  | any => exact List.any_append

/-- A single test speaks for itself under either logic. -/
theorem join_of_length_eq_one (h : as.length = 1) (logic logic' : Logic) :
    logic.join test as = logic'.join test as := by
  obtain ⟨a, rfl⟩ := List.length_eq_one_iff.mp h
  cases logic <;> cases logic' <;> simp [join]

/-- The word for a logic is the token that joins filters by it. -/
theorem exists_ofQuery_keyword (logic : Logic) :
    ∃ t, Token.ofQuery logic.keyword = .ok [t] ∧ (t.kind = .and ∨ t.kind = .or) ∧
      Query.joinerLogic (some t) = logic := by
  cases logic with
  | all => exact ⟨_, Token.ofQuery_and, Or.inl rfl, rfl⟩
  | any => exact ⟨_, Token.ofQuery_or, Or.inr rfl, rfl⟩

end Logic

namespace Query

variable {kind : EntityKind} {text₁ text₂ : String} {q q₁ q₂ : Query} {now : Moment} {r : Record}
  {records : List Record} {logic : Logic}

/-- A query has a single filter or combines its filters by the given logic. -/
def AgreesWith (q : Query) (logic : Logic) : Prop :=
  q.filters.length = 1 ∨ q.logic = logic

theorem accepts_eq_join (hne : q.filters ≠ []) (h : q.AgreesWith logic) :
    q.accepts now r = logic.join (·.accepts now r) q.filters := by
  have hsome : q.filters.isEmpty = false := by simpa using hne
  rw [accepts, hsome, Bool.false_or]
  rcases h with hone | hlogic
  · exact Logic.join_of_length_eq_one hone _ _
  · rw [hlogic]

/-- The filters of two queries side by side under one logic. -/
structure Juxtaposes (q q₁ q₂ : Query) (logic : Logic) : Prop where
  filters : q.filters = q₁.filters ++ q₂.filters
  logic_eq : q.logic = logic
  trailer : q.trailer = {}
  left_ne : q₁.filters ≠ []
  right_ne : q₂.filters ≠ []
  left : q₁.AgreesWith logic
  right : q₂.AgreesWith logic

namespace Juxtaposes

theorem accepts_eq (h : q.Juxtaposes q₁ q₂ logic) :
    q.accepts now r = logic.merge (q₁.accepts now r) (q₂.accepts now r) := by
  have hne : q.filters ≠ [] := by simp [h.filters, h.left_ne]
  rw [accepts_eq_join hne (Or.inr h.logic_eq), h.filters, Logic.join_append,
    accepts_eq_join h.left_ne h.left, accepts_eq_join h.right_ne h.right]

theorem decides (h : q.Juxtaposes q₁ q₂ logic) (h₁ : q₁.Decides now records)
    (h₂ : q₂.Decides now records) : q.Decides now records := by
  intro c hc
  rw [h.filters] at hc
  rcases List.mem_append.mp hc with hc | hc
  · exact h₁ c hc
  · exact h₂ c hc

theorem filter_eq (h : q.Juxtaposes q₁ q₂ logic) (h₁ : q₁.Decides now records)
    (h₂ : q₂.Decides now records) :
    ResultSet.filter q now records =
      .ok (records.filter fun r => logic.merge (q₁.accepts now r) (q₂.accepts now r)) := by
  rw [ResultSet.filter_eq_ok (h.decides h₁ h₂)]
  exact congrArg Except.ok (List.filter_congr fun r _ => h.accepts_eq)

end Juxtaposes

/-- Two queries of filters read as one query with the word for their logic between them. -/
theorem exists_juxtaposes_of_read (h₁ : read kind text₁ = .ok q₁) (h₂ : read kind text₂ = .ok q₂)
    (htrailer₁ : q₁.trailer = {}) (htrailer₂ : q₂.trailer = {}) (hagree₁ : q₁.AgreesWith logic)
    (hagree₂ : q₂.AgreesWith logic) :
    ∃ q, read kind (text₁ ++ (" " ++ logic.keyword ++ " ") ++ text₂) = .ok q ∧
      q.Juxtaposes q₁ q₂ logic := by
  obtain ⟨items₁, hitems₁, hfilters₁⟩ := exists_writesFilters_of_read h₁ htrailer₁
  obtain ⟨items₂, hitems₂, hfilters₂⟩ := exists_writesFilters_of_read h₂ htrailer₂
  obtain ⟨t, hword, ht, rfl⟩ := logic.exists_ofQuery_keyword
  have hlogic : ∀ {p : Query} {items : List FilterItem},
      p.filters = items.map FilterItem.result → p.AgreesWith (joinerLogic (some t)) →
      1 < items.length → p.logic = joinerLogic (some t) := by
    intro p items hfilters hagree hlong
    rcases hagree with hone | hagree
    · rw [hfilters, List.length_map] at hone
      omega
    · exact hagree
  obtain ⟨items, hitems, hresult⟩ := hitems₁.join hitems₂ hword ht (hlogic hfilters₁ hagree₁)
    (hlogic hfilters₂ hagree₂)
  refine ⟨_, hitems.read, ?_⟩
  exact {
    filters := by rw [hfilters₁, hfilters₂, ← hresult]; rfl
    logic_eq := rfl
    trailer := rfl
    left_ne := by simpa [hfilters₁] using hitems₁.nonempty
    right_ne := by simpa [hfilters₂] using hitems₂.nonempty
    left := hagree₁
    right := hagree₂ }

/-- What the joined text keeps, for either logic. -/
theorem exists_read_joined (logic : Logic) (h₁ : read kind text₁ = .ok q₁)
    (h₂ : read kind text₂ = .ok q₂) (htrailer₁ : q₁.trailer = {}) (htrailer₂ : q₂.trailer = {})
    (hagree₁ : q₁.AgreesWith logic) (hagree₂ : q₂.AgreesWith logic) :
    ∃ q, read kind (text₁ ++ (" " ++ logic.keyword ++ " ") ++ text₂) = .ok q ∧
      q.trailer = {} ∧
      ∀ now records, q₁.Decides now records → q₂.Decides now records →
        ResultSet.filter q₁ now records = .ok (records.filter (q₁.accepts now)) ∧
        ResultSet.filter q₂ now records = .ok (records.filter (q₂.accepts now)) ∧
        ResultSet.filter q now records =
          .ok (records.filter fun r => logic.merge (q₁.accepts now r) (q₂.accepts now r)) := by
  obtain ⟨q, hread, hq⟩ :=
    exists_juxtaposes_of_read h₁ h₂ htrailer₁ htrailer₂ hagree₁ hagree₂
  refine ⟨q, hread, hq.trailer, ?_⟩
  intro now records hdecides₁ hdecides₂
  exact ⟨ResultSet.filter_eq_ok hdecides₁, ResultSet.filter_eq_ok hdecides₂,
    hq.filter_eq hdecides₁ hdecides₂⟩

/-- Two queries of filters, each with a single filter or with the logic of the joiner, may be joined
as texts.  On records that all their clauses have verdicts on, `AND` keeps what both keep and `OR`
what one of them keeps, in the order of the records. -/
theorem joined_text_keeps (kind : EntityKind) (text₁ text₂ : String) (q₁ q₂ : Query)
    (h₁ : read kind text₁ = .ok q₁) (h₂ : read kind text₂ = .ok q₂)
    (htrailer₁ : q₁.trailer = {}) (htrailer₂ : q₂.trailer = {}) :
    (q₁.AgreesWith .all → q₂.AgreesWith .all →
      ∃ q, read kind (text₁ ++ " AND " ++ text₂) = .ok q ∧ q.trailer = {} ∧
        ∀ now records, q₁.Decides now records → q₂.Decides now records →
          ResultSet.filter q₁ now records = .ok (records.filter (q₁.accepts now)) ∧
          ResultSet.filter q₂ now records = .ok (records.filter (q₂.accepts now)) ∧
          ResultSet.filter q now records =
            .ok (records.filter fun r => q₁.accepts now r && q₂.accepts now r)) ∧
    (q₁.AgreesWith .any → q₂.AgreesWith .any →
      ∃ q, read kind (text₁ ++ " OR " ++ text₂) = .ok q ∧ q.trailer = {} ∧
        ∀ now records, q₁.Decides now records → q₂.Decides now records →
          ResultSet.filter q₁ now records = .ok (records.filter (q₁.accepts now)) ∧
          ResultSet.filter q₂ now records = .ok (records.filter (q₂.accepts now)) ∧
          ResultSet.filter q now records =
            .ok (records.filter fun r => q₁.accepts now r || q₂.accepts now r)) := by
  constructor
  · exact exists_read_joined .all h₁ h₂ htrailer₁ htrailer₂
  · exact exists_read_joined .any h₁ h₂ htrailer₁ htrailer₂

theorem joined_text_keeps_exists :
    (∃ q, read .issue "subject:exists AND status:exists" = .ok q ∧
      ResultSet.filter q ⟨.first, .midnight, .utc⟩
        [⟨0, .object [("subject", .string "bug")]⟩, ⟨1, .object []⟩] = .ok []) ∧
    ∃ q, read .issue "subject:exists OR status:exists" = .ok q ∧
      ResultSet.filter q ⟨.first, .midnight, .utc⟩
        [⟨0, .object [("subject", .string "bug")]⟩, ⟨1, .object []⟩] =
          .ok [⟨0, .object [("subject", .string "bug")]⟩] := by
  have hchars₁ : "subject:exists".toList =
      ['s', 'u', 'b', 'j', 'e', 'c', 't', ':', 'e', 'x', 'i', 's', 't', 's'] := rfl
  have ht₁ : Token.ofQuery "subject:exists" = .ok [⟨.fieldExpr, "subject:exists", 0⟩] := by
    rw [Token.ofQuery_word hchars₁ (by decide) rfl]
    cbv
  have hclause₁ : FilterClause.ofToken .issue ⟨.fieldExpr, "subject:exists", 0⟩ =
      .ok ⟨"subject", Relation.exists.holds, .null⟩ := by
    cbv
  have hchars₂ : "status:exists".toList =
      ['s', 't', 'a', 't', 'u', 's', ':', 'e', 'x', 'i', 's', 't', 's'] := rfl
  have ht₂ : Token.ofQuery "status:exists" = .ok [⟨.fieldExpr, "status:exists", 0⟩] := by
    rw [Token.ofQuery_word hchars₂ (by decide) rfl]
    cbv
  have hclause₂ : FilterClause.ofToken .issue ⟨.fieldExpr, "status:exists", 0⟩ =
      .ok ⟨"status", Relation.exists.holds, .null⟩ := by
    cbv
  have hread₁ := read_of_ofToken ht₁ rfl hclause₁
  have hread₂ := read_of_ofToken ht₂ rfl hclause₂
  have hdecides : ∀ {q : Query} {field : String} {now : Moment} {records : List Record},
      q.filters = [⟨field, Relation.exists.holds, .null⟩] → q.Decides now records := by
    intro q field now records hq
    exact decides_of_filters_eq hq (FilterClause.decides_exists field now records)
  have hsubject₀ : (Record.resolve ⟨0, .object [("subject", .string "bug")]⟩ "subject").isNull =
      false := by
    cbv
  have hstatus₀ : (Record.resolve ⟨0, .object [("subject", .string "bug")]⟩ "status").isNull =
      true := by
    cbv
  have hsubject₁ : (Record.resolve ⟨1, .object []⟩ "subject").isNull = true := by
    cbv
  obtain ⟨hand, hor⟩ := joined_text_keeps .issue _ _ _ _ hread₁ hread₂ rfl rfl
  constructor
  · obtain ⟨q, hread, -, hkeeps⟩ := hand (Or.inl rfl) (Or.inl rfl)
    refine ⟨q, hread, ?_⟩
    rw [(hkeeps _ _ (hdecides rfl) (hdecides rfl)).2.2]
    simp [accepts, Logic.join, FilterClause.accepts, FilterClause.verdict_exists,
      Except.toOption, hstatus₀, hsubject₁]
  · obtain ⟨q, hread, -, hkeeps⟩ := hor (Or.inl rfl) (Or.inl rfl)
    have hstatus₁ : (Record.resolve ⟨1, .object []⟩ "status").isNull = true := by
      cbv
    refine ⟨q, hread, ?_⟩
    rw [(hkeeps _ _ (hdecides rfl) (hdecides rfl)).2.2]
    simp [accepts, Logic.join, FilterClause.accepts, FilterClause.verdict_exists,
      Except.toOption, hsubject₀, hsubject₁, hstatus₁]

end Query

end IssueQuery
