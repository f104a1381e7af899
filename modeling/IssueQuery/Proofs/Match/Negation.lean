import IssueQuery.Proofs.Match.Selection
import IssueQuery.Proofs.Query.Joining

/-!
# `NOT` is negation

A clause and its negation have opposite verdicts on every record, or fail together.  Hence a filter
and the same filter behind a `NOT` split the records between them: none is kept by both, and none
is lost.
-/

namespace IssueQuery

open Outcome

/-! ## Verdicts -/

namespace FilterClause

variable {c : FilterClause} {now : Moment} {r : Record}

theorem verdict_negate (c : FilterClause) (now : Moment) (r : Record) :
    c.negate.verdict now r = (c.verdict now r).map (!·) := by
  have hopposite : ∀ b : Bool, (b != !c.operator.negated) = !(b != c.operator.negated) := by
    intro b
    cases b <;> cases c.operator.negated <;> rfl
  rw [verdict_eq, verdict_eq, negate, Operator.relation_negate]
  cases Match.holds now r c.field c.operator.relation c.operand with
  | error e => rfl
  | ok b => exact congrArg Except.ok (hopposite b)

theorem Decides.negate {records : List Record} (h : c.Decides now records) :
    c.negate.Decides now records := by
  intro r hr
  obtain ⟨b, hb⟩ := h r hr
  exact ⟨!b, by rw [verdict_negate, hb]; rfl⟩

theorem accepts_negate {b : Bool} (h : c.verdict now r = .ok b) :
    c.negate.accepts now r = !c.accepts now r := by
  rw [accepts, accepts, verdict_negate, h]
  rfl

end FilterClause

/-- The branches of two operators that the table lists as opposites have opposite verdicts. -/
theorem Match.evaluate_of_opposites {s s' : String} (h : Operator.opposites.lookup s = some s')
    (now : Moment) (r : Record) (field : String) (operand : Value) :
    evaluate now r field s' operand = (evaluate now r field s operand).map (!·) := by
  obtain ⟨op, rfl, rfl⟩ := Operator.exists_of_lookup_opposites h
  exact FilterClause.verdict_negate ⟨field, op, operand⟩ now r

namespace Query

variable {q : Query} {c : FilterClause} {now : Moment} {records : List Record}

theorem accepts_of_filters_eq (hq : q.filters = [c]) (now : Moment) (r : Record) :
    q.accepts now r = c.accepts now r := by
  rw [accepts, hq]
  cases q.logic <;> simp [Logic.join]

/-- Queries with opposite single filters split the records between them. -/
theorem partition_of_filters_eq {q' : Query} (hq : q.filters = [c]) (hq' : q'.filters = [c.negate])
    (h : c.Decides now records) :
    ∃ kept dropped, ResultSet.filter q now records = .ok kept ∧
      ResultSet.filter q' now records = .ok dropped ∧
      records.partition (q.accepts now) = (kept, dropped) := by
  have hkept := ResultSet.filter_eq_ok (decides_of_filters_eq hq h)
  have hdropped := ResultSet.filter_eq_ok (decides_of_filters_eq hq' h.negate)
  have hopposite : records.filter (q'.accepts now) = records.filter fun r => !q.accepts now r := by
    apply List.filter_congr
    intro r hr
    obtain ⟨b, hb⟩ := h r hr
    rw [accepts_of_filters_eq hq', accepts_of_filters_eq hq, FilterClause.accepts_negate hb]
  rw [hopposite] at hdropped
  exact ⟨_, _, hkept, hdropped, List.partition_eq_filter_filter⟩

/-- Every operator has an opposite, and taking the opposite turns every verdict around and keeps
every failure.  A single filter behind a `NOT` reads as the opposite clause, and the two queries
split any records on which the clause has verdicts. -/
theorem not_is_complement (kind : EntityKind) :
    (∀ op : Operator, (Operator.opposites.lookup op.spelling).isSome) ∧
    (∀ s s', Operator.opposites.lookup s = some s' →
      ∀ (field : String) (operand : Value) (now : Moment) (r : Record),
        SpelledClause.verdict ⟨field, s', operand⟩ now r =
          (SpelledClause.verdict ⟨field, s, operand⟩ now r).map (!·)) ∧
    ∀ (text : String) (t : Token) (q : Query),
      Token.ofQuery text = .ok [t] → read kind text = .ok q →
      ∃ c c' q', q.filters = [c] ∧ q.trailer = {} ∧
        read kind ("NOT " ++ text) = .ok q' ∧ q'.filters = [c'] ∧ c'.Opposes c ∧
        q'.trailer = {} ∧
        ∀ now records, c.Decides now records →
          ∃ kept dropped, ResultSet.filter q now records = .ok kept ∧
            ResultSet.filter q' now records = .ok dropped ∧
            records.partition (q.accepts now) = (kept, dropped) := by
  refine ⟨fun op => by rw [Operator.lookup_opposites]; rfl, ?_, ?_⟩
  · intro s s' h field operand now r
    exact Match.evaluate_of_opposites h now r field operand
  intro text t q ht hread
  obtain ⟨htrailer, i, hi, hnegation, hfilters⟩ := exists_item_of_read ht hread
  obtain ⟨i', hi', hresult⟩ := hi.negate hnegation
  have hfilters' : (ofItems kind ("NOT " ++ text) [i'] q.logic).filters = [i.result.negate] := by
    rw [← hresult]
    rfl
  refine ⟨i.result, i.result.negate, ofItems kind ("NOT " ++ text) [i'] q.logic, hfilters,
    htrailer, hi'.read, hfilters', FilterClause.opposes_negate _, rfl, ?_⟩
  intro now records hdecides
  exact partition_of_filters_eq hfilters hfilters' hdecides

theorem not_is_complement_exists :
    SpelledClause.verdict ⟨"subject", "null", .null⟩ ⟨.first, .midnight, .utc⟩ ⟨1, .object []⟩ =
      .ok true ∧ ∃ q',
    read .issue "NOT subject:exists" = .ok q' ∧
      ResultSet.filter q' ⟨.first, .midnight, .utc⟩
        [⟨0, .object [("subject", .string "bug")]⟩, ⟨1, .object []⟩] = .ok [⟨1, .object []⟩] := by
  have hchars : "subject:exists".toList =
      ['s', 'u', 'b', 'j', 'e', 'c', 't', ':', 'e', 'x', 'i', 's', 't', 's'] := rfl
  have ht : Token.ofQuery "subject:exists" = .ok [⟨.fieldExpr, "subject:exists", 0⟩] := by
    rw [Token.ofQuery_word hchars (by decide) rfl]
    cbv
  have hclause : FilterClause.ofToken .issue ⟨.fieldExpr, "subject:exists", 0⟩ =
      .ok ⟨"subject", Relation.exists.holds, .null⟩ := by
    cbv
  have hthere : (Record.resolve ⟨0, .object [("subject", .string "bug")]⟩ "subject").isNull =
      false := by
    cbv
  have hmissing : (Record.resolve ⟨1, .object []⟩ "subject").isNull = true := by
    cbv
  obtain ⟨-, hopposite, hnot⟩ := not_is_complement .issue
  have hexists : SpelledClause.verdict ⟨"subject", "exists", .null⟩ ⟨.first, .midnight, .utc⟩
      ⟨1, .object []⟩ = .ok false :=
    (FilterClause.verdict_exists "subject" _ _).trans (by rw [hmissing]; rfl)
  obtain ⟨c, c', q', hc, -, hread, -, -, -, hsplit⟩ :=
    hnot _ _ _ ht (read_of_ofToken ht rfl hclause)
  cases hc
  obtain ⟨kept, dropped, -, hdropped, hpartition⟩ :=
    hsplit _ _ (FilterClause.decides_exists "subject" ⟨.first, .midnight, .utc⟩ _)
  refine ⟨by rw [hopposite "exists" "null" rfl, hexists]; rfl, q', hread, ?_⟩
  rw [hdropped]
  simp [List.partition_eq_filter_filter, accepts, Logic.join, FilterClause.accepts,
    FilterClause.verdict_exists, Except.toOption, hthere, hmissing] at hpartition
  simp [hpartition]

end Query

end IssueQuery
