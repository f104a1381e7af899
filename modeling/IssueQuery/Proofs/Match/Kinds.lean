import IssueQuery.Proofs.Match.Duality
import IssueQuery.Proofs.Match.Representation

/-!
# Comparisons of one kind

An order is only found between sides of one kind: two numbers, two moments or two texts.  Whatever
a record holds and whatever an operand asks for, the two are brought to one kind before they are
compared, so the relations of order obey the law of trichotomy, and no clause that the reader lets
through fails on a record.  Integers are unbounded here, so a numeral is read however long it is.
-/

namespace IssueQuery

open Outcome

namespace Match

variable {now : Moment} {actual expected low high : Value} {o : Ordering}

/-! ## Sides -/

/-- One side of a comparison, of one of three kinds. -/
inductive Side where
  | number (n : Number)
  | moment (m : Moment)
  | text (s : String)

/-- Order of two sides.  Sides of different kinds have none, and neither has what is no number. -/
def Side.compare? : Side → Side → Option Ordering
  | .number m, .number n => Number.compare? m n
  | .moment a, .moment b => some (compareMoments a b)
  | .text s, .text t => some (Text.compareChars s.toList t.toList)
  | _, _ => none

/-- The sides as which a value and an operand are compared if they are not both numbers. -/
def datedSides (now : Moment) (actual expected : Value) : Except TimeError (Side × Side) := do
  match actual.toMoment?, ← moment? now expected with
  | some a, some b => return (.moment a, .moment b)
  | _, _ => return (.text actual.label, .text expected.label)

/-- The sides as which a value and an operand are compared. -/
def sides (now : Moment) (actual expected : Value) : Except TimeError (Side × Side) :=
  match actual.toNumber?, expected.toNumber? with
  | some m, some n => .ok (.number m, .number n)
  | _, _ => datedSides now actual expected

/-- A value and an operand are compared as sides of one kind, with this order. -/
def ComparesAs (now : Moment) (actual expected : Value) (o : Ordering) : Prop :=
  ∃ x y, sides now actual expected = .ok (x, y) ∧ x.compare? y = some o

/-- The sides as which a value and the bounds of a range are compared if they are not all numbers,
and nothing if they are not all moments either. -/
def datedRangeSides? (now : Moment) (actual low high : Value) :
    Except TimeError (Option (Side × Side × Side)) := do
  match actual.toMoment?, ← moment? now low, ← moment? now high with
  | some m, some a, some b => return some (.moment m, .moment a, .moment b)
  | _, _, _ => return none

/-- The sides as which a value and the bounds of a range are compared, if they share a kind. -/
def rangeSides? (now : Moment) (actual low high : Value) :
    Except TimeError (Option (Side × Side × Side)) :=
  match actual.toNumber?, low.toNumber?, high.toNumber? with
  | some n, some a, some b => .ok (some (.number n, .number a, .number b))
  | _, _, _ => datedRangeSides? now actual low high

/-- What sides say about a range: nothing does not lie in it. -/
inductive DecidesRange : Option (Side × Side × Side) → Bool → Prop where
  | apart : DecidesRange none false
  | compared {x a b : Side} {o p : Ordering} : x.compare? a = some o → x.compare? b = some p →
      DecidesRange (some (x, a, b)) (o ≠ .lt && p ≠ .gt)

/-- A value is compared with the bounds of a range as sides of one kind, or not at all. -/
def RangesAs (now : Moment) (actual low high : Value) (b : Bool) : Prop :=
  ∃ s, rangeSides? now actual low high = .ok s ∧ DecidesRange s b

/-! ## Orders -/

/-- The order of two numbers is found, as neither is what is no number. -/
theorem exists_compare?_of_toNumber? {m n : Number} (hm : actual.toNumber? = some m)
    (hn : expected.toNumber? = some n) :
    ∃ o, compareNumbers? actual expected = some o ∧ Number.compare? m n = some o := by
  obtain ⟨o, ho⟩ := exists_compareNumbers?_eq_some (Option.isSome_of_eq_some hm)
    (Option.isSome_of_eq_some hn)
  refine ⟨o, ho, ?_⟩
  rwa [compareNumbers?, hm, hn] at ho

theorem exists_toNumber?_of_compareNumbers? (h : compareNumbers? actual expected = some o) :
    (∃ m, actual.toNumber? = some m) ∧ ∃ n, expected.toNumber? = some n := by
  unfold compareNumbers? at h
  split at h
  · rename_i m n hm hn
    exact ⟨⟨m, hm⟩, n, hn⟩
  · cases h

theorem orderOf_of_datedSides (hnone : compareNumbers? actual expected = none) :
    orderOf now actual expected = .ok o ↔
      ∃ x y, datedSides now actual expected = .ok (x, y) ∧ x.compare? y = some o := by
  rw [orderOf, hnone, datedSides]
  dsimp only
  cases moment? now expected with
  | error e =>
      constructor
      · intro h
        cases h
      · rintro ⟨x, y, h, -⟩
        cases h
  | ok b? =>
      rw [ok_bind, ok_bind]
      cases actual.toMoment? <;> cases b? <;> simp [pure, Except.pure, Side.compare?]

/-- The order of a value and an operand is that of their sides. -/
theorem orderOf_eq_ok_iff :
    orderOf now actual expected = .ok o ↔ ComparesAs now actual expected o := by
  rw [ComparesAs, sides]
  split
  · rename_i m n hm hn
    obtain ⟨p, hp, hp'⟩ := exists_compare?_of_toNumber? hm hn
    rw [orderOf, hp]
    simp [Side.compare?, hp']
  · rename_i hnumbers
    apply orderOf_of_datedSides
    by_contra hsome
    obtain ⟨p, hp⟩ := Option.ne_none_iff_exists'.mp hsome
    obtain ⟨⟨m, hm⟩, n, hn⟩ := exists_toNumber?_of_compareNumbers? hp
    exact hnumbers m n hm hn

/-- A value and an operand that stands for a moment are sides of one kind. -/
theorem exists_comparesAs (h : Resolves now expected) (actual : Value) :
    ∃ o, ComparesAs now actual expected o := by
  cases horder : orderOf now actual expected with
  | error e => exact absurd (failsAt_of_orderOf horder) h.not_failsAt
  | ok o => exact ⟨o, orderOf_eq_ok_iff.mp horder⟩

theorem ordered_of_comparesAs {relation : Relation} (hactual : actual ≠ .null)
    (h : ComparesAs now actual expected o) :
    ordered now relation actual expected = .ok (satisfies relation o) :=
  ordered_of_orderOf relation hactual (orderOf_eq_ok_iff.mpr h)

/-! ## Ranges -/

theorem exists_datedRangeSides? {b : Bool} (h : (do
    match actual.toMoment?, ← moment? now low, ← moment? now high with
    | some m, some a, some b => return compareMoments a m ≠ .gt && compareMoments m b ≠ .gt
    | _, _, _ => return false) = (.ok b : Except TimeError Bool)) :
    ∃ s, datedRangeSides? now actual low high = .ok s ∧ DecidesRange s b := by
  obtain ⟨low?, hlow, h⟩ := bind_eq_ok_iff.mp h
  obtain ⟨high?, hhigh, h⟩ := bind_eq_ok_iff.mp h
  rw [datedRangeSides?, hlow, hhigh, ok_bind, ok_bind]
  split at h
  · rename_i m a c hm
    rw [pure_eq_ok_iff, decide_compareMoments_swap] at h
    subst h
    exact ⟨_, rfl, .compared rfl rfl⟩
  · rw [pure_eq_ok_iff] at h
    subst h
    exact ⟨none, rfl, .apart⟩

/-- A value lies in a range as its sides say. -/
theorem rangesAs_of_within {b : Bool} (h : within now actual low high = .ok b) :
    RangesAs now actual low high b := by
  unfold within at h
  unfold RangesAs rangeSides?
  split
  · rename_i n a c hn ha hc
    obtain ⟨o, ho, ho'⟩ := exists_compare?_of_toNumber? hn ha
    obtain ⟨p, hp, hp'⟩ := exists_compare?_of_toNumber? hn hc
    rw [ho, hp] at h
    cases h
    exact ⟨_, rfl, .compared ho' hp'⟩
  · rename_i hnumbers
    split at h
    · rename_i o p ho hp
      obtain ⟨⟨n, hn⟩, a, ha⟩ := exists_toNumber?_of_compareNumbers? ho
      obtain ⟨-, c, hc⟩ := exists_toNumber?_of_compareNumbers? hp
      exact absurd hc (hnumbers n a c hn ha)
    · exact exists_datedRangeSides? h

theorem exists_rangesAs (hlow : Resolves now low) (hhigh : Resolves now high) (actual : Value) :
    ∃ b, within now actual low high = .ok b ∧ RangesAs now actual low high b := by
  cases hwithin : within now actual low high with
  | error e =>
      rcases failsAt_of_within hwithin with hfails | hfails
      · exact absurd hfails hlow.not_failsAt
      · exact absurd hfails hhigh.not_failsAt
  | ok b => exact ⟨b, rfl, rangesAs_of_within hwithin⟩

end Match

namespace FilterClause

variable {c : FilterClause} {now : Moment} {r : Record}

/-! ## Trichotomy -/

/-- Of a field with a value and an operand that stands for a moment if it is a keyword, exactly one
is true: the field is greater, it is less, or it is both at least and at most the operand.  The
other relations of order and the negated ones follow from these.  A field without a value is in no
relation of order. -/
theorem order_is_trichotomous (field : String) (v : Value) (now : Moment)
    (hresolves : Match.Resolves now v) (r : Record) :
    (r.resolve field = .null → ∀ relation : Relation, relation.isOrdering →
      verdict ⟨field, relation.holds, v⟩ now r = .ok false ∧
      verdict ⟨field, relation.fails, v⟩ now r = .ok true) ∧
    (r.resolve field ≠ .null → ∃ greater less atLeast atMost : Bool,
      verdict ⟨field, Relation.greater.holds, v⟩ now r = .ok greater ∧
      verdict ⟨field, Relation.less.holds, v⟩ now r = .ok less ∧
      verdict ⟨field, Relation.greaterEqual.holds, v⟩ now r = .ok atLeast ∧
      verdict ⟨field, Relation.lessEqual.holds, v⟩ now r = .ok atMost ∧
      [greater, less, atLeast && atMost].count true = 1 ∧
      atLeast = (greater || atLeast && atMost) ∧ atMost = (less || atLeast && atMost) ∧
      verdict ⟨field, Relation.greater.fails, v⟩ now r = .ok atMost ∧
      verdict ⟨field, Relation.less.fails, v⟩ now r = .ok atLeast ∧
      verdict ⟨field, Relation.greaterEqual.fails, v⟩ now r = .ok less ∧
      verdict ⟨field, Relation.lessEqual.fails, v⟩ now r = .ok greater) := by
  constructor
  · intro hnull relation hordering
    have hholds : Match.holds now r field relation v = .ok false := by
      rw [Match.holds_of_isOrdering hordering, hnull, Match.ordered_null]
    exact ⟨verdict_of_holds hholds, verdict_of_fails hholds⟩
  · intro hvalue
    obtain ⟨o, ho⟩ := Match.exists_comparesAs hresolves (r.resolve field)
    have hholds : ∀ relation : Relation, relation.isOrdering →
        Match.holds now r field relation v = .ok (Match.satisfies relation o) := by
      intro relation hordering
      rw [Match.holds_of_isOrdering hordering, Match.ordered_of_comparesAs hvalue ho]
    have hgreater := hholds .greater rfl
    have hless := hholds .less rfl
    have hatLeast := hholds .greaterEqual rfl
    have hatMost := hholds .lessEqual rfl
    refine ⟨_, _, _, _, verdict_of_holds hgreater, verdict_of_holds hless,
      verdict_of_holds hatLeast, verdict_of_holds hatMost, ?_, ?_, ?_,
      (verdict_of_fails hgreater).trans ?_, (verdict_of_fails hless).trans ?_,
      (verdict_of_fails hatLeast).trans ?_, (verdict_of_fails hatMost).trans ?_⟩
    all_goals cases o <;> rfl

/-- At noon of the 12th of June 2024, an issue of the 1st of March is compared with today, and so is
an issue without a date. -/
theorem order_is_trichotomous_today :
    let now : Moment := ⟨⟨2024, 6, 12, by decide, by decide, by decide, by decide⟩,
      ⟨43200000000, by decide⟩, .utc⟩
    let r : Record := ⟨0, .object [("created_date", .string "2024-03-01T10:00:00Z")]⟩
    (∃ greater less atLeast atMost : Bool,
      verdict ⟨"created", Relation.greater.holds, .string "today"⟩ now r = .ok greater ∧
      verdict ⟨"created", Relation.less.holds, .string "today"⟩ now r = .ok less ∧
      verdict ⟨"created", Relation.greaterEqual.holds, .string "today"⟩ now r = .ok atLeast ∧
      verdict ⟨"created", Relation.lessEqual.holds, .string "today"⟩ now r = .ok atMost ∧
      [greater, less, atLeast && atMost].count true = 1) ∧
    verdict ⟨"created", Relation.greater.fails, .string "today"⟩ now ⟨1, .object []⟩ =
      .ok true := by
  intro now r
  have hresolves : Match.Resolves now (.string "today") :=
    Query.resolves_since_new_year now _ (List.mem_cons_of_mem _ List.mem_cons_self)
  have hvalue : r.resolve "created" = .string "2024-03-01T10:00:00Z" := by cbv
  have hmissing : Record.resolve ⟨1, .object []⟩ "created" = .null := by cbv
  constructor
  · obtain ⟨greater, less, atLeast, atMost, hgreater, hless, hatLeast, hatMost, hcount, -⟩ :=
      (order_is_trichotomous "created" (.string "today") now hresolves r).2 (by simp [hvalue])
    exact ⟨greater, less, atLeast, atMost, hgreater, hless, hatLeast, hatMost, hcount⟩
  · exact ((order_is_trichotomous "created" (.string "today") now hresolves ⟨1, .object []⟩).1
      hmissing .greater rfl).2

/-! ## Clauses of queries -/

theorem resolves_operand (h : ∀ v ∈ parts c.operand, Match.Resolves now v) :
    Match.Resolves now c.operand :=
  fun k hk => h _ (Match.mem_parts_of_keyword? hk) k hk

theorem exists_bounds {kind : EntityKind} (h : c.WellFormed kind)
    (hbetween : c.operator.relation = .between) : ∃ low high, c.operand = .list [low, high] := by
  obtain ⟨items, hitems⟩ := h.list_iff.mpr (by rw [hbetween]; rfl)
  obtain ⟨-, -, hlength⟩ := h.list_items items hitems
  obtain ⟨low, high, rfl⟩ := List.length_eq_two.mp (hlength hbetween)
  exact ⟨low, high, hitems⟩

theorem not_leavesCalendar {e : TimeError}
    (hahead : (now.shift? (Moment.days Match.upcomingDays)).isSome)
    (hresolves : ∀ v ∈ parts c.operand, Match.Resolves now v) : ¬c.LeavesCalendar now e := by
  intro h
  cases h with
  | keyword hv hk hfails => exact (hresolves _ hv).not_failsAt ⟨_, hk, hfails⟩
  | upcoming _ _ hnone =>
      rw [hnone] at hahead
      cases hahead

/-- A clause of a query has a verdict on every record, as long as the calendar holds the moments
that it asks for.  Its operator is one of the catalogue, so it is never passed over.  Relations of
order compare sides of one kind, and so does a range, which always has its two bounds. -/
theorem verdict_of_read (kind : EntityKind) (text : String) (q : Query)
    (hread : Query.read kind text = .ok q) (c : FilterClause) (hc : c ∈ q.filters) (now : Moment)
    (hahead : (now.shift? (Moment.days Match.upcomingDays)).isSome)
    (hresolves : ∀ v ∈ parts c.operand, Match.Resolves now v) (r : Record) :
    (∃ b, c.verdict now r = .ok b ∧ c.spelled.verdict now r = .ok b) ∧
    Operator.ofSpelling? c.spelled.operator = some c.operator ∧
    (c.operator.relation.isOrdering →
      (r.resolve c.field = .null ∧ c.verdict now r = .ok c.operator.negated) ∨
      ∃ o, Match.ComparesAs now (r.resolve c.field) c.operand o ∧
        c.verdict now r = .ok (Match.satisfies c.operator.relation o != c.operator.negated)) ∧
    (c.operator.relation = .between → ∃ low high b, c.operand = .list [low, high] ∧
      Match.RangesAs now (r.resolve c.field) low high b ∧
      c.verdict now r = .ok (b != c.operator.negated)) := by
  obtain ⟨-, tokens, -, htokens⟩ := Query.read_eq_ok_iff.mp hread
  have hwell := (Query.wellFormed_of_ofTokens htokens).filters _ hc
  refine ⟨?_, Operator.ofSpelling?_spelling c.operator, ?_, ?_⟩
  · cases hverdict : c.verdict now r with
    | error e =>
        exact absurd (leavesCalendar_of_verdict hverdict) (not_leavesCalendar hahead hresolves)
    | ok b => exact ⟨b, rfl, by rw [verdict_spelled, hverdict]⟩
  · intro hordering
    by_cases hnull : r.resolve c.field = .null
    · have hholds : Match.holds now r c.field c.operator.relation c.operand = .ok false := by
        rw [Match.holds_of_isOrdering hordering, hnull, Match.ordered_null]
      refine Or.inl ⟨hnull, (verdict_eq_ok hholds).trans ?_⟩
      rw [Bool.false_bne]
    · obtain ⟨o, ho⟩ := Match.exists_comparesAs (resolves_operand hresolves) (r.resolve c.field)
      refine Or.inr ⟨o, ho, verdict_eq_ok ?_⟩
      rw [Match.holds_of_isOrdering hordering, Match.ordered_of_comparesAs hnull ho]
  · intro hbetween
    obtain ⟨low, high, hbounds⟩ := exists_bounds hwell hbetween
    rw [hbounds] at hresolves
    obtain ⟨b, hwithin, hranges⟩ := Match.exists_rangesAs (hresolves low (by simp [parts]))
      (hresolves high (by simp [parts])) (r.resolve c.field)
    refine ⟨low, high, b, hbounds, hranges, verdict_eq_ok ?_⟩
    rw [hbetween, hbounds]
    exact hwithin

/-- At noon of the 12th of June 2024, the range of this year decides on an issue whose date is a
list. -/
theorem verdict_of_read_since_new_year :
    let now : Moment := ⟨⟨2024, 6, 12, by decide, by decide, by decide, by decide⟩,
      ⟨43200000000, by decide⟩, .utc⟩
    let r : Record := ⟨0, .object [("created_date", .list [.string "2024-03-01"])]⟩
    let range : FilterClause :=
      ⟨"created", Relation.between.holds, .list [.string "2024-01-01", .string "today"]⟩
    ∃ q, Query.read .issue "created:2024-01-01..today" = .ok q ∧ range ∈ q.filters ∧
      ∃ b, Match.RangesAs now (r.resolve "created") (.string "2024-01-01") (.string "today") b ∧
        range.verdict now r = .ok (b != false) := by
  intro now r range
  have hahead : (now.shift? (Moment.days Match.upcomingDays)).isSome := by decide +kernel
  obtain ⟨-, -, -, hbetween⟩ := verdict_of_read .issue "created:2024-01-01..today" _
    Query.read_since_new_year range List.mem_cons_self now hahead
    (Query.resolves_since_new_year now) r
  obtain ⟨low, high, b, hbounds, hranges, hverdict⟩ := hbetween rfl
  cases hbounds
  exact ⟨_, Query.read_since_new_year, List.mem_cons_self, b, hranges, hverdict⟩

end FilterClause

end IssueQuery
