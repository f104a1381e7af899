import IssueQuery.Proofs.Match.Negation

/-!
# Negated clauses under the other logic

Clauses hold together exactly if none of their negations does.  Tests are run one after the other
and only as far as is needed, so the law has to say more: the negations under the other logic are
run up to the same clause, and what fails there is the same failure.  Hence the two selections
either fail alike or split the records between them.
-/

namespace IssueQuery

open Outcome

namespace Logic

variable {α : Type} {logic : Logic} {test : α → Except TimeError Bool} {opposite : α → α}
  {verdict : α → Record → Except TimeError Bool} {clauses : List α} {records : List Record}

/-- The logic that joins negations where the given one joins what they negate. -/
def dual : Logic → Logic
  | all => any
  | any => all

/-- A verdict settles one logic exactly if its negation settles the other. -/
theorem settles_dual_iff (logic : Logic) (b : Bool) :
    ((!b) = true) = (logic.dual = .any) ↔ (b = true) = (logic = .any) := by
  cases logic <;> cases b <;> simp [dual]

theorem decide_dual_eq_any (logic : Logic) :
    decide (logic.dual = .any) = !decide (logic = .any) := by
  cases logic <;> rfl

/-- Opposite tests are run up to the same place under the other logic, and say the opposite
together. -/
theorem combine_dual {as : List α} (h : ∀ a, test (opposite a) = (test a).map (!·)) :
    logic.dual.combine test (as.map opposite) = (logic.combine test as).map (!·) := by
  induction as with
  | nil => cases logic <;> rfl
  | cons a as ih =>
      rw [List.map_cons, combine, combine, h]
      cases htest : test a with
      | error e => rfl
      | ok b =>
          have hopposite : ((Except.ok b : Except TimeError Bool).map (!·)) = .ok (!b) := rfl
          rw [hopposite, ok_bind, ok_bind]
          by_cases hsettled : (b = true) = (logic = .any)
          · rw [if_pos hsettled, if_pos ((settles_dual_iff logic b).mpr hsettled),
              decide_dual_eq_any]
            rfl
          · rw [if_neg hsettled, if_neg (mt (settles_dual_iff logic b).mp hsettled)]
            exact ih

/-- The records that pass a step of the selection, behind the first record. -/
theorem keepEach_cons_of_combine {r : Record} {rest : List Record} {b : Bool}
    (hr : logic.combine (verdict · r) clauses = .ok b)
    (hrest : keep.keepEach logic verdict clauses records = .ok rest) :
    keep.keepEach logic verdict clauses (r :: records) = .ok (if b then r :: rest else rest) := by
  rw [keep.keepEach, hr, ok_bind, hrest, ok_bind]
  rfl

/-- Opposite selections fail at the same record with the same failure, or each record is kept by
exactly one of them. -/
theorem keepEach_dual (h : ∀ a r, verdict (opposite a) r = (verdict a r).map (!·)) :
    (∃ e, keep.keepEach logic verdict clauses records = .error e ∧
      keep.keepEach logic.dual verdict (clauses.map opposite) records = .error e) ∨
    ∃ kept dropped, keep.keepEach logic verdict clauses records = .ok kept ∧
      keep.keepEach logic.dual verdict (clauses.map opposite) records = .ok dropped ∧
      records.partition (fun r => logic.join (fun a => (verdict a r).toOption.getD false) clauses) =
        (kept, dropped) := by
  induction records with
  | nil => exact Or.inr ⟨[], [], rfl, rfl, rfl⟩
  | cons r records ih =>
      have hdual : logic.dual.combine (verdict · r) (clauses.map opposite) =
          (logic.combine (verdict · r) clauses).map (!·) :=
        combine_dual fun a => h a r
      cases hr : logic.combine (verdict · r) clauses with
      | error e =>
          rw [hr] at hdual
          refine Or.inl ⟨e, ?_, ?_⟩
          · rw [keep.keepEach, hr]
            rfl
          · rw [keep.keepEach, hdual]
            rfl
      | ok b =>
          rw [hr] at hdual
          rcases ih with ⟨e, hkept, hdropped⟩ | ⟨kept, dropped, hkept, hdropped, hsplit⟩
          · refine Or.inl ⟨e, ?_, ?_⟩
            · rw [keep.keepEach, hr, ok_bind, hkept]
              rfl
            · rw [keep.keepEach, hdual, Except.map, ok_bind, hdropped]
              rfl
          · refine Or.inr ⟨_, _, keepEach_cons_of_combine hr hkept,
              keepEach_cons_of_combine hdual hdropped, ?_⟩
            have hb := eq_join_of_combine hr
            rw [List.partition_eq_filter_filter, Prod.mk.injEq] at hsplit ⊢
            obtain ⟨rfl, rfl⟩ := hsplit
            rw [List.filter_cons, List.filter_cons, Function.comp_apply, ← hb]
            exact ⟨rfl, rfl⟩

end Logic

namespace FilterClause

variable {c : FilterClause} {now : Moment} {r : Record}

/-- A clause whose operator is spelled out. -/
def spelled (c : FilterClause) : SpelledClause where
  field := c.field
  operator := c.operator.spelling
  operand := c.operand

theorem verdict_spelled (c : FilterClause) (now : Moment) (r : Record) :
    c.spelled.verdict now r = c.verdict now r := rfl

/-- What a selection keeps does not depend on whether operators are spelled out. -/
theorem keep_spelled (logic : Logic) (clauses : List FilterClause) (now : Moment)
    (records : List Record) :
    logic.keep (SpelledClause.verdict · now) (clauses.map spelled) records =
      logic.keep (·.verdict now) clauses records := by
  have hcombine : ∀ (r : Record) (cs : List FilterClause),
      logic.combine (SpelledClause.verdict · now r) (cs.map spelled) =
        logic.combine (·.verdict now r) cs := by
    intro r cs
    induction cs with
    | nil => rfl
    | cons c cs ih => rw [List.map_cons, Logic.combine, Logic.combine, verdict_spelled, ih]
  have heach : ∀ rs : List Record,
      Logic.keep.keepEach logic (SpelledClause.verdict · now) (clauses.map spelled) rs =
        Logic.keep.keepEach logic (·.verdict now) clauses rs := by
    intro rs
    induction rs with
    | nil => rfl
    | cons r rs ih => rw [Logic.keep.keepEach, Logic.keep.keepEach, hcombine, ih]
  rw [Logic.keep, Logic.keep, List.isEmpty_map, heach]

/-- Clauses under one logic and their negations under the other either fail alike on a list of
records, or split it: what the clauses keep and what their negations keep are the two parts of the
list, each in its order. -/
theorem negations_split_under_dual (logic : Logic) (clauses : List FilterClause)
    (now : Moment) (records : List Record) (hne : clauses ≠ []) :
    (∃ e, logic.keep (SpelledClause.verdict · now) (clauses.map spelled) records = .error e ∧
      logic.dual.keep (SpelledClause.verdict · now) ((clauses.map negate).map spelled) records =
        .error e) ∨
    ∃ kept dropped,
      logic.keep (SpelledClause.verdict · now) (clauses.map spelled) records = .ok kept ∧
      logic.dual.keep (SpelledClause.verdict · now) ((clauses.map negate).map spelled) records =
        .ok dropped ∧
      records.partition (fun r => logic.join (·.accepts now r) clauses) = (kept, dropped) := by
  have hsome : clauses.isEmpty = false := List.isEmpty_eq_false_iff.mpr hne
  have hsome' : (clauses.map negate).isEmpty = false := by rw [List.isEmpty_map, hsome]
  rw [keep_spelled, keep_spelled, Logic.keep, Logic.keep, hsome, hsome',
    if_neg Bool.false_ne_true, if_neg Bool.false_ne_true]
  exact Logic.keepEach_dual fun c r => verdict_negate c now r

/-- Of two records, one has a subject and neither a status: no record has both, and both records
lack one of them. -/
theorem negations_split_under_dual_exists :
    [⟨"subject", Relation.exists.holds, .null⟩, ⟨"status", Relation.exists.holds, .null⟩] ≠
        ([] : List FilterClause) ∧
      Logic.any.keep (SpelledClause.verdict · ⟨.first, .midnight, .utc⟩)
        [⟨"subject", "null", .null⟩, ⟨"status", "null", .null⟩]
        [⟨0, .object [("subject", .string "bug")]⟩, ⟨1, .object []⟩] =
      .ok [⟨0, .object [("subject", .string "bug")]⟩, ⟨1, .object []⟩] := by
  have hne : [⟨"subject", Relation.exists.holds, .null⟩, ⟨"status", Relation.exists.holds, .null⟩] ≠
      ([] : List FilterClause) := by
    simp
  have hstatus : (Record.resolve ⟨0, .object [("subject", .string "bug")]⟩ "status").isNull =
      true := by
    cbv
  have hsubject : (Record.resolve ⟨1, .object []⟩ "subject").isNull = true := by
    cbv
  have hdecides : ∀ records, ∃ kept,
      Logic.all.keep (fun (c : FilterClause) r => c.verdict ⟨.first, .midnight, .utc⟩ r)
        [⟨"subject", Relation.exists.holds, .null⟩, ⟨"status", Relation.exists.holds, .null⟩]
        records = .ok kept := by
    intro records
    apply Logic.exists_keepEach_eq_ok
    intro c hc r _
    rcases List.mem_pair.mp hc with rfl | rfl
    · exact ⟨_, verdict_exists _ _ _⟩
    · exact ⟨_, verdict_exists _ _ _⟩
  refine ⟨hne, ?_⟩
  rcases negations_split_under_dual .all _ ⟨.first, .midnight, .utc⟩
    [⟨0, .object [("subject", .string "bug")]⟩, ⟨1, .object []⟩] hne with
    ⟨e, hkept, -⟩ | ⟨kept, dropped, -, hdropped, hsplit⟩
  · obtain ⟨kept, hkept'⟩ := hdecides
      [⟨0, .object [("subject", .string "bug")]⟩, ⟨1, .object []⟩]
    rw [keep_spelled, hkept'] at hkept
    cases hkept
  · rw [List.partition_eq_filter_filter, Prod.mk.injEq] at hsplit
    refine Eq.trans hdropped (congrArg Except.ok ?_)
    rw [← hsplit.2]
    simp [Logic.join, accepts, verdict_exists, Except.toOption, hstatus, hsubject]

end FilterClause

end IssueQuery
