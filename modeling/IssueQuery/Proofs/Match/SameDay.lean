import IssueQuery.Proofs.Calendar.Period
import IssueQuery.Proofs.Match.Bounds

/-!
# Equality with a time keyword

A date equals a time keyword if both show the same day, each on its own clock.  The keyword shows
the clock of the present, the date the one it is written with, so the dates that equal a keyword are
those of one day of universal time only as far as they are written with this clock.
-/

namespace IssueQuery

open Outcome

namespace TimeKeyword

variable {k : TimeKeyword} {now m : Moment} {s : String}

/-- Keywords are read letter case aside. -/
theorem read?_eq_of_lower {t : String} (h : Text.lower s = Text.lower t) : read? s = read? t := by
  rw [read?, read?, Text.lower_trim, Text.lower_trim, h]

end TimeKeyword

namespace Field

/-- The fields of dates. -/
def ofDates : List String :=
  ["created", "updated", "due_date", "finish_date"]

theorem mem_ofDates {kind : EntityKind} {field : String} (h : type? kind field = some .date) :
    field ∈ ofDates := by
  have hall : (catalogue kind).all fun p => p.2 ≠ .date || ofDates.contains p.1 := by
    cases kind <;> decide
  simpa using List.all_eq_true.mp hall _ (Table.mem_of_lookup h)

end Field

namespace Match

variable {now day m : Moment} {field w s : String} {k : TimeKeyword} {r : Record}

/-- No keyword is a value with a meaning of its own on a field of dates. -/
theorem specialWord?_of_keyword (hfield : field ∈ Field.ofDates)
    (hk : TimeKeyword.read? w = some k) : specialWord? field (.string w) = none := by
  have hwords : Field.ofDates.all fun field =>
      (Field.specialValuesOf field).all fun word =>
        Text.lower word = word ∧ TimeKeyword.read? word = none := by
    decide
  rw [specialWord?]
  split
  · rename_i hmem
    have hword := List.all_eq_true.mp (List.all_eq_true.mp hwords field hfield) _
      (List.contains_iff_mem.mp hmem)
    obtain ⟨hlower, hread⟩ := of_decide_eq_true hword
    rw [TimeKeyword.read?_eq_of_lower hlower, hk] at hread
    cases hread
  · rfl

theorem candidates_of_mem_ofDates (hfield : field ∈ Field.ofDates) (r : Record) :
    r.candidates field = [r.resolve field] := by
  have hnone : Field.ofDates.all fun field => (Resolver.alternates.lookup field).isNone := by
    decide
  have hlookup := List.all_eq_true.mp hnone field hfield
  rw [Record.candidates, Record.alternates, Option.isNone_iff_eq_none.mp hlookup]
  rfl

theorem holds_equal_keyword (hfield : field ∈ Field.ofDates) (hk : TimeKeyword.read? w = some k)
    (hday : k.resolve now = .ok day) (hs : r.resolve field = .string s)
    (hm : Value.readMoment? s = some m) :
    holds now r field .equal (.string w) = .ok (decide (m.date = day.date)) := by
  have hone : equals now (.string w) (.string s) = .ok (decide (m.date = day.date)) := by
    rw [equals, equalsOne, keyword?, hk, writtenMoment?, hm]
    dsimp only
    rw [hday]
    rfl
  unfold holds
  dsimp only
  rw [specialWord?_of_keyword hfield hk, candidates_of_mem_ofDates hfield, hs]
  dsimp only
  rw [equalsAny, hone, ok_bind]
  cases decide (m.date = day.date) <;> rfl

end Match

namespace FilterClause

/-- A date equals a time keyword if the clock that it is written with shows the day of the keyword:
universal time shifted by its offset lies between the midnights of that day. -/
theorem verdict_equal_keyword (kind : EntityKind) (field : String)
    (hfield : Field.type? kind field = some .date) (w : String) (k : TimeKeyword)
    (hk : TimeKeyword.read? w = some k) (now : Moment) (hnow : now.offset = .utc) (day : Moment)
    (hday : k.resolve now = .ok day) (r : Record) (s : String) (m : Moment)
    (hs : r.resolve field = .string s) (hm : Value.readMoment? s = some m) :
    verdict ⟨field, Relation.equal.holds, .string w⟩ now r =
      .ok (decide (day.midnight.instant ≤ m.instant + m.offset.micros ∧
        m.instant + m.offset.micros < day.midnight.instant + Moment.days 1)) := by
  have hoffset : day.offset.micros = 0 := by
    rw [TimeKeyword.offset_of_resolve hday, hnow]
    rfl
  have hshows : m.date = day.date ↔ day.midnight.instant ≤ m.instant + m.offset.micros ∧
      m.instant + m.offset.micros < day.midnight.instant + Moment.days 1 := by
    rw [Moment.date_eq_iff, Moment.instant_add_offset, Moment.instant_midnight, hoffset,
      Int.sub_zero]
  rw [verdict_of_holds (Match.holds_equal_keyword (Field.mem_ofDates hfield) hk hday hs hm),
    decide_eq_decide.mpr hshows]

/-- On the 12th of June 2024, the last microsecond of the day before is yesterday. -/
theorem verdict_equal_keyword_yesterday :
    let now : Moment := ⟨⟨2024, 6, 12, by decide, by decide, by decide, by decide⟩,
      ⟨43200000000, by decide⟩, .utc⟩
    let r : Record := ⟨0, .object [("created_date", .string "2024-06-11T23:59:59.999999Z")]⟩
    verdict ⟨"created", Relation.equal.holds, .string "yesterday"⟩ now r = .ok true := by
  intro now r
  have htype : Field.type? .issue "created" = some .date := by cbv
  have hk : TimeKeyword.read? "yesterday" = some .yesterday := by cbv
  have hvalue : r.resolve "created" = .string "2024-06-11T23:59:59.999999Z" := rfl
  have hday : TimeKeyword.yesterday.resolve now = .ok
      ⟨⟨2024, 6, 11, by decide, by decide, by decide, by decide⟩, .midnight, .utc⟩ := by
    decide +kernel
  have hmoment : Value.readMoment? "2024-06-11T23:59:59.999999Z" = some
      ⟨⟨2024, 6, 11, by decide, by decide, by decide, by decide⟩, ⟨86399999999, by decide⟩,
        .utc⟩ := by
    rfl
  have hverdict := verdict_equal_keyword .issue "created" htype "yesterday" .yesterday hk now rfl
    _ hday r _ _ hvalue hmoment
  exact hverdict.trans (congrArg Except.ok (by decide))

/-- At eight in the evening of universal time, a date of one in the morning on a clock that is five
hours ahead is a day old, but it is taken for one of today. -/
theorem not_verdict_equal_keyword_universal : ¬∀ (kind : EntityKind) (field : String),
    Field.type? kind field = some .date → ∀ (w : String) (k : TimeKeyword),
      TimeKeyword.read? w = some k → ∀ now : Moment, now.offset = .utc → ∀ day : Moment,
        k.resolve now = .ok day → ∀ (r : Record) (s : String) (m : Moment),
          r.resolve field = .string s → Value.readMoment? s = some m →
            verdict ⟨field, Relation.equal.holds, .string w⟩ now r =
              .ok (decide (day.midnight.instant ≤ m.instant ∧
                m.instant < day.midnight.instant + Moment.days 1)) := by
  intro h
  let now : Moment := ⟨⟨2024, 6, 12, by decide, by decide, by decide, by decide⟩,
    ⟨72000000000, by decide⟩, .utc⟩
  let r : Record := ⟨0, .object [("created_date", .string "2024-06-12T01:00:00+05:00")]⟩
  have htype : Field.type? .issue "created" = some .date := by cbv
  have hk : TimeKeyword.read? "today" = some .today := by cbv
  have hvalue : r.resolve "created" = .string "2024-06-12T01:00:00+05:00" := rfl
  have hmoment : Value.readMoment? "2024-06-12T01:00:00+05:00" = some
      ⟨⟨2024, 6, 12, by decide, by decide, by decide, by decide⟩, ⟨3600000000, by decide⟩,
        ⟨18000000000, by decide, by decide⟩⟩ := by
    rfl
  have hclaimed := h .issue "created" htype "today" .today hk now rfl now.midnight rfl r _ _
    hvalue hmoment
  have hday : TimeKeyword.today.resolve now = .ok now.midnight := rfl
  have htrue := verdict_of_holds
    (Match.holds_equal_keyword (Field.mem_ofDates htype) hk hday hvalue hmoment)
  rw [htrue] at hclaimed
  exact absurd (Except.ok.inj hclaimed) (by decide)

end FilterClause

end IssueQuery
