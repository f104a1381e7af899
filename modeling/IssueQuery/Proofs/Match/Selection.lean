import IssueQuery.Proofs.Match.Branches
import IssueQuery.ResultSet

/-!
# The records that a query keeps

Filters are tried record by record and only as far as is needed for a verdict.  What they keep can
be said without this detail: it is the sublist of the records that the query accepts, where a
filter whose verdict fails counts as one that does not hold.
-/

namespace IssueQuery

open Outcome

namespace FilterClause

/-- A clause holds of a record; it does not if its verdict fails. -/
def accepts (c : FilterClause) (now : Moment) (r : Record) : Bool :=
  (c.verdict now r).toOption.getD false

/-- The clause has a verdict on each of the records. -/
def Decides (c : FilterClause) (now : Moment) (records : List Record) : Prop :=
  ∀ r ∈ records, ∃ b, c.verdict now r = .ok b

/-- Whether a field has a value is decided on every record. -/
theorem verdict_exists (field : String) (now : Moment) (r : Record) :
    verdict ⟨field, Relation.exists.holds, .null⟩ now r = .ok !(r.resolve field).isNull :=
  verdict_of_holds rfl

theorem decides_exists (field : String) (now : Moment) (records : List Record) :
    Decides ⟨field, Relation.exists.holds, .null⟩ now records :=
  fun r _ => ⟨_, verdict_exists field now r⟩

end FilterClause

namespace Logic

variable {α : Type} {logic : Logic} {test : α → Except TimeError Bool}
  {verdict : α → Record → Except TimeError Bool}

/-- What several tests without failures say together. -/
def join (logic : Logic) (test : α → Bool) (as : List α) : Bool :=
  match logic with
  | all => as.all test
  | any => as.any test

theorem join_cons (test : α → Bool) (a : α) (as : List α) :
    logic.join test (a :: as) =
      if test a = (logic = .any) then decide (logic = .any) else logic.join test as := by
  cases logic <;> cases ha : test a <;> simp [join, ha]

/-- Tests that are not run behind the one that settles the verdict would not change it. -/
theorem eq_join_of_combine {as : List α} {b : Bool} (h : logic.combine test as = .ok b) :
    b = logic.join (fun a => (test a).toOption.getD false) as := by
  induction as with
  | nil =>
      cases h
      cases logic <;> rfl
  | cons a as ih =>
      rw [combine] at h
      obtain ⟨v, hv, hrest⟩ := bind_eq_ok_iff.mp h
      rw [join_cons, hv]
      split at hrest
      · rename_i hsettled
        cases hrest
        simp [Except.toOption, hsettled]
      · rename_i hopen
        rw [ih hrest]
        simp [Except.toOption, hopen]

/-- Tests that do not fail one by one do not fail together. -/
theorem exists_combine_eq_ok {as : List α} (h : ∀ a ∈ as, ∃ b, test a = .ok b) :
    ∃ b, logic.combine test as = .ok b := by
  induction as with
  | nil => exact ⟨_, rfl⟩
  | cons a as ih =>
      obtain ⟨v, hv⟩ := h a (by simp)
      rw [combine, hv, ok_bind]
      split
      · exact ⟨_, rfl⟩
      · exact ih fun d hd => h d (List.mem_cons_of_mem a hd)

theorem eq_filter_of_keepEach {clauses : List α} {records kept : List Record}
    (h : keep.keepEach logic verdict clauses records = .ok kept) :
    kept = records.filter fun r =>
      logic.join (fun a => (verdict a r).toOption.getD false) clauses := by
  induction records generalizing kept with
  | nil =>
      cases h
      rfl
  | cons r records ih =>
      obtain ⟨v, hv, hbehind⟩ := bind_eq_ok_iff.mp h
      obtain ⟨rest, hrest, hkept⟩ := bind_eq_ok_iff.mp hbehind
      rw [pure_eq_ok_iff] at hkept
      rw [List.filter_cons, ← eq_join_of_combine hv, ← ih hrest, hkept]

theorem exists_keepEach_eq_ok {clauses : List α} {records : List Record}
    (h : ∀ a ∈ clauses, ∀ r ∈ records, ∃ b, verdict a r = .ok b) :
    ∃ kept, keep.keepEach logic verdict clauses records = .ok kept := by
  induction records with
  | nil => exact ⟨_, rfl⟩
  | cons r records ih =>
      obtain ⟨v, hv⟩ : ∃ v, logic.combine (verdict · r) clauses = .ok v :=
        exists_combine_eq_ok fun a ha => h a ha r (by simp)
      obtain ⟨rest, hrest⟩ := ih fun a ha s hs => h a ha s (List.mem_cons_of_mem r hs)
      rw [keep.keepEach, hv, ok_bind, hrest, ok_bind]
      exact ⟨_, rfl⟩

end Logic

/-- A record passes the filters of a query; without filters, all records do. -/
def Query.accepts (q : Query) (now : Moment) (r : Record) : Bool :=
  q.filters.isEmpty || q.logic.join (·.accepts now r) q.filters

/-- All clauses of a query have a verdict on each of the records. -/
def Query.Decides (q : Query) (now : Moment) (records : List Record) : Prop :=
  ∀ c ∈ q.filters, c.Decides now records

theorem Query.decides_of_filters_eq {q : Query} {c : FilterClause} {now : Moment}
    {records : List Record} (hq : q.filters = [c]) (h : c.Decides now records) :
    q.Decides now records := by
  intro d hd
  rw [hq, List.mem_singleton] at hd
  rw [hd]
  exact h

namespace ResultSet

variable {q : Query} {now : Moment} {records kept : List Record}

/-- The filters keep the records that the query accepts, in their order. -/
theorem eq_filter_of_filter_eq_ok (h : filter q now records = .ok kept) :
    kept = records.filter (q.accepts now) := by
  unfold filter Logic.keep at h
  split at h
  · rename_i hnone
    cases h
    rw [List.filter_eq_self.mpr]
    intro r _
    rw [Query.accepts, hnone, Bool.true_or]
  · rename_i hsome
    rw [Bool.not_eq_true] at hsome
    rw [Logic.eq_filter_of_keepEach h]
    congr 1
    funext r
    rw [Query.accepts, hsome, Bool.false_or]
    rfl

theorem filter_eq_ok (h : q.Decides now records) :
    filter q now records = .ok (records.filter (q.accepts now)) := by
  have hkept : ∃ kept, filter q now records = .ok kept := by
    unfold filter Logic.keep
    split
    · exact ⟨_, rfl⟩
    · exact Logic.exists_keepEach_eq_ok h
  obtain ⟨kept, hkept⟩ := hkept
  rw [hkept, eq_filter_of_filter_eq_ok hkept]

end ResultSet

end IssueQuery
