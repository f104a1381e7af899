import IssueQuery.Calendar.Keyword
import IssueQuery.Proofs.Calendar.Ordinal

/-!
# Days and instants

The microseconds on a clock from the first midnight of the calendar to its last one all belong to
moments, one each.  So a shift leads to the moment that lies as far away as it says, or out of the
calendar.
-/

namespace IssueQuery

open Calendar

namespace Moment

variable {m m' : Moment} {n : Int} {offset : Offset}

theorem localMicros_midnight (m : Moment) : m.midnight.localMicros = days m.date.ordinal := by
  simp [localMicros, midnight, ClockTime.midnight, days]

theorem instant_midnight (m : Moment) :
    m.midnight.instant = m.date.ordinal * 86400000000 - m.offset.micros := by
  simp [midnight, instant, localMicros, ClockTime.midnight]

theorem instant_add_offset (m : Moment) : m.instant + m.offset.micros = m.localMicros := by
  rw [instant]
  omega

/-- A clock shows a day from one midnight to the next. -/
theorem date_eq_iff (m : Moment) (d : Date) :
    m.date = d ↔ (d.ordinal * 86400000000 : Int) ≤ m.localMicros ∧
      m.localMicros < d.ordinal * 86400000000 + days 1 := by
  have hclock := m.clock.lt_day
  constructor
  · rintro rfl
    simp only [localMicros, days]
    omega
  · rintro ⟨hfrom, huntil⟩
    apply Date.eq_of_ordinal_eq
    simp only [localMicros, days] at hfrom huntil
    omega

/-! ## Shifts -/

/-- The first midnight of the calendar, on the clock that shows it. -/
def beginning : Int := days 1

theorem localMicros_lt (m : Moment) : m.localMicros < days (lastOrdinal + 1) := by
  have hday := m.date.ordinal_le_last
  have hclock := m.clock.lt_day
  simp only [days, localMicros]
  omega

theorem ofLocalMicros?_eq_some_iff :
    ofLocalMicros? n offset = some m ↔ m.localMicros = n ∧ m.offset = offset := by
  have hclock := m.clock.lt_day
  rw [ofLocalMicros?, Option.map_eq_some_iff]
  constructor
  · rintro ⟨d, hd, rfl⟩
    have hday := Date.ordinal_of_ofOrdinal? hd
    refine ⟨?_, rfl⟩
    simp only [localMicros]
    omega
  · rintro ⟨rfl, rfl⟩
    have hday : m.localMicros / 86400000000 = m.date.ordinal := by
      simp only [localMicros]
      omega
    have htime : (m.localMicros % 86400000000).toNat = m.clock.micros := by
      simp only [localMicros]
      omega
    refine ⟨m.date, Date.ofOrdinal?_eq_some_iff.mpr hday.symm, ?_⟩
    simp only [htime]

theorem ofLocalMicros?_eq_none_iff :
    ofLocalMicros? n offset = none ↔ n < beginning ∨ days (lastOrdinal + 1) ≤ n := by
  rw [ofLocalMicros?, Option.map_eq_none_iff, Date.ofOrdinal?_eq_none_iff]
  simp only [beginning, days]
  omega

/-- A shift leads to the moment of the same clock that lies as far away. -/
theorem shift?_eq_some_iff :
    m.shift? n = some m' ↔ m'.instant = m.instant + n ∧ m'.offset = m.offset := by
  rw [shift?, ofLocalMicros?_eq_some_iff]
  refine and_congr_left fun hoffset => ?_
  rw [instant, instant, hoffset]
  omega

/-- A shift into the past leads out of the calendar only before it begins. -/
theorem shift?_eq_none_iff (h : n ≤ 0) : m.shift? n = none ↔ m.localMicros + n < beginning := by
  have hlast := m.localMicros_lt
  rw [shift?, ofLocalMicros?_eq_none_iff]
  omega

end Moment

namespace TimeKeyword

variable {m : Moment} {n : Int}

theorem eq_some_of_reached {m? : Option Moment} (h : reached m? = .ok m) : m? = some m := by
  cases m? with
  | none => cases h
  | some m' => exact congrArg some (Except.ok.inj h)

/-- A keyword stands for the moment at which a clock shows so many microseconds, and if it stands
for none, the calendar has not begun on this clock. -/
structure Shows (offset : Offset) (result : Except TimeError Moment) (micros : Int) : Prop where
  moment : ∀ m, result = .ok m → m.offset = offset ∧ m.localMicros = micros
  fails_iff : (∃ e, result = .error e) ↔ micros < Moment.beginning

theorem shows_ok (m : Moment) : Shows m.offset (.ok m) m.localMicros where
  moment := by
    rintro m' ⟨⟩
    exact ⟨rfl, rfl⟩
  fails_iff := by
    refine iff_of_false (fun ⟨e, h⟩ => nomatch h) ?_
    have hpos := m.date.ordinal_pos
    simp only [Moment.localMicros, Moment.beginning, Moment.days]
    omega

theorem shows_reached (hn : n ≤ 0) :
    Shows m.offset (reached (m.shift? n)) (m.localMicros + n) where
  moment := by
    intro m' h
    obtain ⟨hinstant, hoffset⟩ := Moment.shift?_eq_some_iff.mp (eq_some_of_reached h)
    rw [Moment.instant, Moment.instant, hoffset] at hinstant
    exact ⟨hoffset, by omega⟩
  fails_iff := by
    rw [← Moment.shift?_eq_none_iff hn]
    cases m.shift? n with
    | none => exact iff_of_true ⟨_, rfl⟩ rfl
    | some m' => exact iff_of_false (fun ⟨e, h⟩ => nomatch h) (Option.some_ne_none m')

/-- A keyword stands for some moment if the calendar has begun then. -/
theorem Shows.exists_moment {offset : Offset} {result : Except TimeError Moment}
    (h : Shows offset result n) (hbegun : Moment.beginning ≤ n) :
    ∃ m, result = .ok m ∧ m.offset = offset ∧ m.localMicros = n := by
  cases result with
  | ok m => exact ⟨m, rfl, h.moment m rfl⟩
  | error e => exact absurd (h.fails_iff.mp ⟨e, rfl⟩) (not_lt.mpr hbegun)

end TimeKeyword

end IssueQuery
