import IssueQuery.Proofs.Match.Selection

/-!
# How a verdict fails

A clause has a verdict on every record, whatever the record looks like, unless it asks for a moment
that lies outside the calendar.  This is up to the clause and the present alone: it is a time
keyword of the operand that reaches too far back, or the coming days that reach behind the last day.
-/

namespace IssueQuery

open Outcome

namespace FilterClause

/-- A clause asks for a moment that lies outside the calendar. -/
inductive LeavesCalendar (now : Moment) (c : FilterClause) : TimeError → Prop where
  /-- A time keyword among the operands stands for no moment. -/
  | keyword {v : Value} {k : TimeKeyword} {e : TimeError} :
      v ∈ parts c.operand → Match.keyword? v = some k → k.resolve now = .error e →
      LeavesCalendar now c e
  /-- The calendar ends within the days in which a date is upcoming. -/
  | upcoming :
      c.field = "due_date" → Match.specialWord? c.field c.operand = some "upcoming" →
      now.shift? (Moment.days Match.upcomingDays) = none → LeavesCalendar now c .outOfRange

end FilterClause

namespace Match

variable {now : Moment} {record : Record} {actual expected low high v : Value} {e : TimeError}
  {k : TimeKeyword} {word : String} {m : Option Moment} {r : Relation}

/-! ## Failures of keywords -/

/-- A value is a time keyword that stands for no moment. -/
def FailsAt (now : Moment) (v : Value) (e : TimeError) : Prop :=
  ∃ k, keyword? v = some k ∧ k.resolve now = .error e

theorem mem_parts_of_keyword? (h : keyword? v = some k) : v ∈ FilterClause.parts v := by
  cases v with
  | string s => simp [FilterClause.parts]
  | _ => cases h

theorem failsAt_of_moment? (h : moment? now v = .error e) : FailsAt now v e := by
  unfold moment? at h
  split at h
  · rename_i k hk
    rcases bind_eq_error_iff.mp h with h | ⟨m, -, h⟩
    · exact ⟨k, hk, h⟩
    · cases h
  · cases h

theorem failsAt_of_orderOf (h : orderOf now actual expected = .error e) :
    FailsAt now expected e := by
  unfold orderOf at h
  split at h
  · cases h
  · rcases bind_eq_error_iff.mp h with h | ⟨m, -, h⟩
    · exact failsAt_of_moment? h
    · split at h
      · cases h
      · cases h

theorem failsAt_of_ordered (h : ordered now r actual expected = .error e) :
    FailsAt now expected e := by
  unfold ordered at h
  split at h
  · cases h
  · rcases bind_eq_error_iff.mp h with h | ⟨o, -, h⟩
    · exact failsAt_of_orderOf h
    · cases h

theorem failsAt_of_within (h : within now actual low high = .error e) :
    FailsAt now low e ∨ FailsAt now high e := by
  unfold within at h
  split at h
  · cases h
  · rcases bind_eq_error_iff.mp h with h | ⟨a, -, h⟩
    · exact Or.inl (failsAt_of_moment? h)
    · rcases bind_eq_error_iff.mp h with h | ⟨b, -, h⟩
      · exact Or.inr (failsAt_of_moment? h)
      · split at h
        · cases h
        · cases h

theorem failsAt_of_equalsOne (h : equalsOne now expected actual = .error e) :
    FailsAt now expected e := by
  unfold equalsOne at h
  split at h
  · rename_i k m hk _
    rcases bind_eq_error_iff.mp h with h | ⟨m', -, h⟩
    · exact ⟨k, hk, h⟩
    · cases h
  · cases h

mutual

/-- Whatever the shape of the value, it is the operand that fails. -/
theorem failsAt_of_equals {actual : Value} (h : equals now expected actual = .error e) :
    FailsAt now expected e := by
  cases actual with
  | null =>
      rw [equals] at h
      cases h
  | list items =>
      rw [equals] at h
      exact failsAt_of_equalsAny h
  | bool b =>
      rw [equals] at h
      exact failsAt_of_equalsOne h
  | number n =>
      rw [equals] at h
      exact failsAt_of_equalsOne h
  | string s =>
      rw [equals] at h
      exact failsAt_of_equalsOne h
  | object fields =>
      rw [equals] at h
      exact failsAt_of_equalsOne h
  | dateTime t =>
      rw [equals] at h
      exact failsAt_of_equalsOne h
  | date d =>
      rw [equals] at h
      exact failsAt_of_equalsOne h

theorem failsAt_of_equalsAny {values : List Value}
    (h : equalsAny now expected values = .error e) : FailsAt now expected e := by
  cases values with
  | nil =>
      rw [equalsAny] at h
      cases h
  | cons v vs =>
      rw [equalsAny] at h
      rcases bind_eq_error_iff.mp h with h | ⟨b, -, h⟩
      · exact failsAt_of_equals h
      · split at h
        · cases h
        · exact failsAt_of_equalsAny h

end

/-! ## Failures of values with a meaning of their own -/

theorem eq_none_of_reached (h : TimeKeyword.reached m = .error e) : m = none ∧ e = .outOfRange := by
  cases m with
  | none =>
      cases h
      exact ⟨rfl, rfl⟩
  | some m => cases h

theorem shift?_eq_none_of_isUpcoming {due : Moment} (h : isUpcoming now due = .error e) :
    now.shift? (Moment.days upcomingDays) = none ∧ e = .outOfRange := by
  unfold isUpcoming at h
  split at h
  · cases h
  · rcases bind_eq_error_iff.mp h with h | ⟨m, -, h⟩
    · exact eq_none_of_reached h
    · cases h

theorem upcoming_of_isDue (h : isDue now record actual word = .error e) :
    word = "upcoming" ∧ now.shift? (Moment.days upcomingDays) = none ∧ e = .outOfRange := by
  unfold isDue at h
  split at h
  · cases h
  · by_cases hpast : word = "past"
    · rw [if_pos hpast] at h
      cases h
    · rw [if_neg hpast] at h
      by_cases hupcoming : word = "upcoming"
      · rw [if_pos hupcoming] at h
        exact ⟨hupcoming, shift?_eq_none_of_isUpcoming h⟩
      · rw [if_neg hupcoming] at h
        cases h

/-- Only the question for upcoming due dates looks ahead. -/
theorem upcoming_of_special {field : String} (h : special now record field word = .error e) :
    field = "due_date" ∧ word = "upcoming" ∧
      now.shift? (Moment.days upcomingDays) = none ∧ e = .outOfRange := by
  unfold special at h
  dsimp only at h
  by_cases hnull : word = "null"
  · rw [if_pos hnull] at h
    cases h
  · rw [if_neg hnull] at h
    by_cases hflag : field = "blocked" ∨ field = "closed"
    · rw [if_pos hflag] at h
      cases h
    · rw [if_neg hflag] at h
      by_cases hdue : field = "due_date"
      · rw [if_pos hdue] at h
        exact ⟨hdue, upcoming_of_isDue h⟩
      · rw [if_neg hdue] at h
        cases h

end Match

namespace FilterClause

variable {now : Moment} {record : Record} {c : FilterClause} {e : TimeError}

theorem leavesCalendar_of_failsAt {v : Value} (hv : v ∈ parts c.operand)
    (h : Match.FailsAt now v e) : c.LeavesCalendar now e := by
  obtain ⟨k, hk, hresolve⟩ := h
  exact .keyword hv hk hresolve

/-- The operand itself is its only part if it is a time keyword. -/
theorem leavesCalendar_of_failsAt_operand (h : Match.FailsAt now c.operand e) :
    c.LeavesCalendar now e := by
  obtain ⟨k, hk, hresolve⟩ := h
  exact .keyword (Match.mem_parts_of_keyword? hk) hk hresolve

/-- A verdict only fails by leaving the calendar, on every record and for every operand. -/
theorem leavesCalendar_of_verdict (h : c.verdict now record = .error e) :
    c.LeavesCalendar now e := by
  rw [verdict_eq] at h
  rcases bind_eq_error_iff.mp h with h | ⟨b, -, h⟩
  · unfold Match.holds at h
    cases hrelation : c.operator.relation with
    | equal =>
        rw [hrelation] at h
        dsimp only at h
        split at h
        · rename_i word hword
          obtain ⟨hfield, rfl, hshift, rfl⟩ := Match.upcoming_of_special h
          exact .upcoming hfield hword hshift
        · exact leavesCalendar_of_failsAt_operand (Match.failsAt_of_equalsAny h)
    | greater | greaterEqual | less | lessEqual =>
        rw [hrelation] at h
        exact leavesCalendar_of_failsAt_operand (Match.failsAt_of_ordered h)
    | between =>
        rw [hrelation] at h
        dsimp only at h
        unfold Match.between at h
        split at h
        · rename_i low high hrange
          rcases Match.failsAt_of_within h with hlow | hhigh
          · exact leavesCalendar_of_failsAt (by simp [parts, hrange]) hlow
          · exact leavesCalendar_of_failsAt (by simp [parts, hrange]) hhigh
        · cases h
    | contains | startsWith | endsWith | fuzzy | oneOf | «exists» | empty =>
        rw [hrelation] at h
        cases h
  · cases h

end FilterClause

namespace Logic

variable {α : Type} {logic : Logic} {test : α → Except TimeError Bool} {e : TimeError}

theorem exists_error_of_combine {as : List α} (h : logic.combine test as = .error e) :
    ∃ a ∈ as, test a = .error e := by
  induction as with
  | nil => cases h
  | cons a as ih =>
      rw [combine] at h
      rcases bind_eq_error_iff.mp h with h | ⟨b, -, h⟩
      · exact ⟨a, by simp, h⟩
      · split at h
        · cases h
        · obtain ⟨d, hd, hfails⟩ := ih h
          exact ⟨d, List.mem_cons_of_mem a hd, hfails⟩

theorem exists_error_of_keepEach {verdict : α → Record → Except TimeError Bool}
    {clauses : List α} {records : List Record}
    (h : keep.keepEach logic verdict clauses records = .error e) :
    ∃ r ∈ records, ∃ a ∈ clauses, verdict a r = .error e := by
  induction records with
  | nil => cases h
  | cons r records ih =>
      rw [keep.keepEach] at h
      rcases bind_eq_error_iff.mp h with h | ⟨b, -, h⟩
      · exact ⟨r, by simp, exists_error_of_combine h⟩
      · rcases bind_eq_error_iff.mp h with h | ⟨rest, -, h⟩
        · obtain ⟨s, hs, hfails⟩ := ih h
          exact ⟨s, List.mem_cons_of_mem r hs, hfails⟩
        · cases h

end Logic

/-- Filters only fail by a clause that leaves the calendar, and only if there is a record to look
at. -/
theorem ResultSet.exists_leavesCalendar_of_filter {q : Query} {now : Moment}
    {records : List Record} {e : TimeError} (h : filter q now records = .error e) :
    ∃ c ∈ q.filters, c.LeavesCalendar now e ∧ records ≠ [] := by
  unfold filter Logic.keep at h
  split at h
  · cases h
  · obtain ⟨r, hr, c, hc, hverdict⟩ := Logic.exists_error_of_keepEach h
    exact ⟨c, hc, FilterClause.leavesCalendar_of_verdict hverdict, List.ne_nil_of_mem hr⟩

end IssueQuery
