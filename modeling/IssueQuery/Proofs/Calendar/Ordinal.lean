import IssueQuery.Calendar.Date
import Mathlib

/-!
# Days are numbered in the order of the calendar

A later day has a greater number, whether it is named by year, month and day or by year, week and
weekday: no month is longer than what lies between its beginning and the next one, no year longer
than its months, and the weeks of a year end before those of the next one begin.
-/

namespace IssueQuery

open Calendar

namespace Calendar

variable {year month : Nat}

theorem month_le_of_daysInMonth_pos (h : 0 < daysInMonth year month) : 1 ≤ month ∧ month ≤ 12 := by
  unfold daysInMonth at h
  split at h
  all_goals omega

theorem daysInMonth_pos (h : 1 ≤ month ∧ month ≤ 12) : 1 ≤ daysInMonth year month := by
  fun_cases daysInMonth
  all_goals grind

theorem daysBeforeMonth_mono (year : Nat) : Monotone (daysBeforeMonth year) :=
  monotone_nat_of_le_succ fun _ => Nat.le_add_right _ _

/-- The days of all months. -/
theorem daysBeforeMonth_thirteen (year : Nat) :
    daysBeforeMonth year 13 = 365 + if isLeap year then 1 else 0 := by
  simp only [daysBeforeMonth, daysInMonth]
  split <;> rfl

theorem daysBeforeYear_succ (h : 1 ≤ year) :
    daysBeforeYear (year + 1) = daysBeforeYear year + 365 + if isLeap year then 1 else 0 := by
  obtain ⟨past, rfl⟩ : ∃ past, year = past + 1 := ⟨year - 1, by omega⟩
  have hfour : (past + 1) / 4 = past / 4 + if (past + 1) % 4 = 0 then 1 else 0 := by
    split <;> omega
  have hcentury : (past + 1) / 100 = past / 100 + if (past + 1) % 100 = 0 then 1 else 0 := by
    split <;> omega
  have hcycle : (past + 1) / 400 = past / 400 + if (past + 1) % 400 = 0 then 1 else 0 := by
    split <;> omega
  have hleap : (if isLeap (past + 1) then 1 else 0) + (if (past + 1) % 100 = 0 then 1 else 0) =
      (if (past + 1) % 4 = 0 then 1 else 0) + (if (past + 1) % 400 = 0 then 1 else 0) := by
    simp only [isLeap, Bool.and_eq_true, Bool.or_eq_true, decide_eq_true_eq]
    split_ifs <;> omega
  have hmore : past / 100 ≤ past / 4 := by omega
  simp only [daysBeforeYear, Nat.add_sub_cancel, hfour, hcentury, hcycle]
  omega

theorem daysBeforeYear_mono {year' : Nat} (h : 1 ≤ year) (hle : year ≤ year') :
    daysBeforeYear year ≤ daysBeforeYear year' := by
  induction year', hle using Nat.le_induction with
  | base => exact le_rfl
  | succ y hy ih =>
      rw [daysBeforeYear_succ (h.trans hy)]
      omega

end Calendar

namespace Date

variable {d e : Date} {year week weekday : Nat}

theorem month_mem (d : Date) : 1 ≤ d.month ∧ d.month ≤ 12 :=
  month_le_of_daysInMonth_pos (d.day_pos.trans d.day_le)

/-! ## Days of a month -/

/-- A day does not lie behind the end of its month. -/
theorem ordinal_le_month (d : Date) :
    d.ordinal ≤ daysBeforeYear d.year + daysBeforeMonth d.year (d.month + 1) := by
  have hday := d.day_le
  rw [ordinal, daysBeforeMonth]
  omega

/-- A day does not lie behind the end of its year. -/
theorem ordinal_le_year (d : Date) : d.ordinal ≤ daysBeforeYear (d.year + 1) := by
  have hmonth := daysBeforeMonth_mono d.year (show d.month + 1 ≤ 13 by have := d.month_mem; omega)
  rw [daysBeforeMonth_thirteen] at hmonth
  have hday := d.ordinal_le_month
  rw [daysBeforeYear_succ d.year_pos]
  omega

theorem ordinal_lt_of_year_lt (h : d.year < e.year) : d.ordinal < e.ordinal := by
  have hyear : daysBeforeYear (d.year + 1) ≤ daysBeforeYear e.year :=
    daysBeforeYear_mono (by omega) h
  have hd := d.ordinal_le_year
  have he := e.day_pos
  rw [ordinal] at hd ⊢
  rw [ordinal]
  omega

theorem ordinal_lt_of_month_lt (hyear : d.year = e.year) (h : d.month < e.month) :
    d.ordinal < e.ordinal := by
  have hmonth := daysBeforeMonth_mono d.year (show d.month + 1 ≤ e.month from h)
  have hd := d.ordinal_le_month
  have he := e.day_pos
  rw [ordinal] at hd ⊢
  rw [ordinal, ← hyear]
  omega

theorem ordinal_lt_of_day_lt (hyear : d.year = e.year) (hmonth : d.month = e.month)
    (h : d.day < e.day) : d.ordinal < e.ordinal := by
  rw [ordinal, ordinal, hyear, hmonth]
  omega

/-- Days are numbered by year, month and day. -/
theorem ordinal_lt_of_lt (h : [d.year, d.month, d.day] < [e.year, e.month, e.day]) :
    d.ordinal < e.ordinal := by
  simp only [List.cons_lt_cons_iff, List.not_lt_nil, and_false, or_false] at h
  rcases h with hyear | ⟨hyear, hmonth | ⟨hmonth, hday⟩⟩
  · exact ordinal_lt_of_year_lt hyear
  · exact ordinal_lt_of_month_lt hyear hmonth
  · exact ordinal_lt_of_day_lt hyear hmonth hday

/-- No two days have the same number. -/
theorem eq_of_ordinal_eq (h : d.ordinal = e.ordinal) : d = e := by
  have hfields : [d.year, d.month, d.day] = [e.year, e.month, e.day] := by
    rcases lt_trichotomy [d.year, d.month, d.day] [e.year, e.month, e.day] with hlt | heq | hgt
    · exact absurd h (ordinal_lt_of_lt hlt).ne
    · exact heq
    · exact absurd h (ordinal_lt_of_lt hgt).ne'
  cases d
  cases e
  simpa using hfields

theorem ordinal_pos (d : Date) : 1 ≤ d.ordinal :=
  d.day_pos.trans (Nat.le_add_left _ _)

theorem ordinal_le_last (d : Date) : d.ordinal ≤ lastOrdinal :=
  d.ordinal_le_year.trans (daysBeforeYear_mono (Nat.le_add_left 1 d.year)
    (Nat.add_le_add_right d.year_le 1))

/-! ## The day with a number -/

theorem fields_of_ofCivil? {month day : Nat} (h : ofCivil? year month day = some d) :
    d.year = year ∧ d.month = month ∧ d.day = day := by
  unfold ofCivil? at h
  split at h
  · cases h
    exact ⟨rfl, rfl, rfl⟩
  · cases h

theorem ofCivil?_eq_some_iff {month day : Nat} :
    ofCivil? year month day = some d ↔ d.year = year ∧ d.month = month ∧ d.day = day := by
  constructor
  · exact fields_of_ofCivil?
  · rintro ⟨rfl, rfl, rfl⟩
    exact dif_pos ⟨d.year_pos, d.year_le, d.day_pos, d.day_le⟩

theorem ofCivil?_eq_none_iff {month day : Nat} : ofCivil? year month day = none ↔
    ¬(1 ≤ year ∧ year ≤ 9999 ∧ 1 ≤ day ∧ day ≤ daysInMonth year month) := by
  rw [ofCivil?]
  split_ifs with h
  · exact iff_of_false nofun (not_not.mpr h)
  · exact iff_of_true rfl h

/-- The day with a number has that number. -/
theorem ordinal_of_ofOrdinal? {n : Int} (h : ofOrdinal? n = some d) : d.ordinal = n := by
  unfold ofOrdinal? at h
  split at h
  · obtain ⟨hyear, hmonth, hday⟩ := fields_of_ofCivil? h
    have hpos := d.day_pos
    rw [ordinal, hyear, hmonth]
    rw [hday] at *
    omega
  · cases h

/-- A year of mean length has 146097 / 400 days, and the years before a given one have at most one
day more and less than two days fewer than as many mean years. -/
theorem daysBeforeYear_bounds (past : Nat) : 400 * daysBeforeYear (past + 1) < 146097 * past + 400 ∧
    146097 * past < 400 * daysBeforeYear (past + 1) + 700 := by
  simp only [daysBeforeYear, Nat.add_sub_cancel]
  omega

/-- The estimate leads to the year that a day lies in. -/
theorem yearOfOrdinal_spec {n : Nat} (h : 1 ≤ n) : 1 ≤ yearOfOrdinal n ∧
    daysBeforeYear (yearOfOrdinal n) < n ∧ n ≤ daysBeforeYear (yearOfOrdinal n + 1) := by
  obtain ⟨past, hpast⟩ : ∃ past, past = (n - 1) * 400 / 146097 := ⟨_, rfl⟩
  have hfrom := daysBeforeYear_bounds past
  have huntil := daysBeforeYear_bounds (past + 1)
  have hnext := daysBeforeYear_bounds (past + 1 + 1)
  unfold yearOfOrdinal
  dsimp only
  rw [← hpast]
  split_ifs with hearly hlate
  · omega
  · exact ⟨by omega, hlate, by omega⟩
  · exact ⟨by omega, by omega, by omega⟩

/-- The search through the months that are left ends with the one that a day lies in. -/
theorem monthOfDay_spec {n month left : Nat} (hleft : month + left = 12)
    (hfrom : daysBeforeMonth year month < n) (huntil : n ≤ daysBeforeMonth year 13) :
    daysBeforeMonth year (monthOfDay year n (List.range' month left)) < n ∧
      n ≤ daysBeforeMonth year (monthOfDay year n (List.range' month left) + 1) := by
  induction left generalizing month with
  | zero =>
      obtain rfl : month = 12 := hleft
      exact ⟨hfrom, huntil⟩
  | succ left ih =>
      rw [List.range'_succ, monthOfDay]
      split_ifs with hmonth
      · exact ⟨hfrom, hmonth⟩
      · exact ih (by omega) (Nat.lt_of_not_le hmonth)

/-- Every number up to the last one is that of a day. -/
theorem exists_ofOrdinal? {n : Int} (hpos : 1 ≤ n) (hle : n ≤ lastOrdinal) :
    ∃ d, ofOrdinal? n = some d := by
  obtain ⟨n, rfl⟩ := Int.eq_ofNat_of_zero_le (show 0 ≤ n by omega)
  obtain ⟨hyear, hfrom, huntil⟩ := yearOfOrdinal_spec (n := n) (by omega)
  have hlast : yearOfOrdinal n ≤ 9999 := by
    by_contra hlater
    have hend : daysBeforeYear 10000 ≤ daysBeforeYear (yearOfOrdinal n) :=
      daysBeforeYear_mono (by decide) (by omega)
    have hcount : daysBeforeYear 10000 = lastOrdinal := rfl
    omega
  have hlength := daysBeforeMonth_thirteen (yearOfOrdinal n)
  rw [daysBeforeYear_succ hyear] at huntil
  have hstart : daysBeforeMonth (yearOfOrdinal n) 1 < n - daysBeforeYear (yearOfOrdinal n) :=
    Nat.sub_pos_of_lt hfrom
  obtain ⟨hmonth, hnext⟩ := monthOfDay_spec (show 1 + 11 = 12 from rfl) hstart (by omega)
  rw [ofOrdinal?, if_pos ⟨hpos, hle⟩]
  exact ⟨_, dif_pos ⟨hyear, hlast, Nat.sub_pos_of_lt hmonth, Nat.sub_le_iff_le_add'.mpr hnext⟩⟩

/-- The days of the calendar are numbered from one on without a gap. -/
theorem ofOrdinal?_eq_some_iff {n : Int} : ofOrdinal? n = some d ↔ (d.ordinal : Int) = n := by
  constructor
  · exact ordinal_of_ofOrdinal?
  · rintro rfl
    have hpos := d.ordinal_pos
    have hle := d.ordinal_le_last
    obtain ⟨e, he⟩ := exists_ofOrdinal? (n := d.ordinal) (by omega) (by omega)
    rw [he, eq_of_ordinal_eq (Int.ofNat.inj (ordinal_of_ofOrdinal? he))]

theorem ofOrdinal?_eq_none_iff {n : Int} :
    ofOrdinal? n = none ↔ n < 1 ∨ (lastOrdinal : Int) < n := by
  constructor
  · intro h
    by_contra hrange
    obtain ⟨d, hd⟩ := exists_ofOrdinal? (n := n) (by omega) (by omega)
    rw [hd] at h
    cases h
  · intro h
    exact if_neg (by omega)

/-! ## Days of a week -/

/-- The weeks of a year begin with a Monday close to the beginning of the year. -/
theorem firstMonday_spec (year : Nat) : (firstMonday year + 6) % 7 = 0 ∧
    (daysBeforeYear year : Int) - 2 ≤ firstMonday year ∧
    firstMonday year ≤ daysBeforeYear year + 4 := by
  unfold firstMonday
  dsimp only
  split
  · omega
  · omega

/-- There are at least 52 weeks in a year. -/
theorem firstMonday_succ (h : 1 ≤ year) : firstMonday year + 364 ≤ firstMonday (year + 1) := by
  have hyear := firstMonday_spec year
  have hnext := firstMonday_spec (year + 1)
  rw [daysBeforeYear_succ h] at hnext
  split at hnext
  · omega
  · omega

theorem firstMonday_mono {year' : Nat} (h : 1 ≤ year) (hle : year ≤ year') :
    firstMonday year ≤ firstMonday year' := by
  induction year', hle using Nat.le_induction with
  | base => exact le_rfl
  | succ y hy ih =>
      have hsucc := firstMonday_succ (h.trans hy)
      omega

/-- A day that is named by its week. -/
structure IsOfWeek (d : Date) (year week weekday : Nat) : Prop where
  ordinal_eq : (d.ordinal : Int) = firstMonday year + 7 * ((week : Int) - 1) + weekday - 1
  year_pos : 1 ≤ year
  week_pos : 1 ≤ week
  weekday_pos : 1 ≤ weekday
  weekday_le : weekday ≤ 7
  /-- The week begins before those of the next year. -/
  before_next : firstMonday year + 7 * ((week : Int) - 1) < firstMonday (year + 1)

theorem isOfWeek_of_ofWeek? (h : ofWeek? year week weekday = some d) :
    IsOfWeek d year week weekday := by
  unfold ofWeek? at h
  dsimp only at h
  split at h
  · rename_i hrange
    obtain ⟨hyear, -, hweek, hweek_le, hpos, hle, hlast⟩ := hrange
    refine ⟨by rw [ordinal_of_ofOrdinal? h], hyear, hweek, hpos, hle, ?_⟩
    have hnext := firstMonday_succ hyear
    by_cases h53 : week = 53
    · exact hlast h53
    · omega
  · cases h

namespace IsOfWeek

variable {year' week' weekday' : Nat}

theorem lt_of_year_lt (hd : IsOfWeek d year week weekday) (he : IsOfWeek e year' week' weekday')
    (h : year < year') : d.ordinal < e.ordinal := by
  have hmono : firstMonday (year + 1) ≤ firstMonday year' := firstMonday_mono (by omega) h
  -- Weeks begin with Mondays, so one that begins before another one ends before it.
  have hstart := (firstMonday_spec year).1
  have hend := (firstMonday_spec (year + 1)).1
  have hbefore := hd.before_next
  have hweekday := hd.weekday_le
  have hweek' := he.week_pos
  have hweekday' := he.weekday_pos
  have hordinal := hd.ordinal_eq
  have hordinal' := he.ordinal_eq
  omega

theorem lt_of_week_lt (hd : IsOfWeek d year week weekday) (he : IsOfWeek e year week' weekday')
    (h : week < week') : d.ordinal < e.ordinal := by
  have hweekday := hd.weekday_le
  have hweekday' := he.weekday_pos
  have hordinal := hd.ordinal_eq
  have hordinal' := he.ordinal_eq
  omega

theorem lt_of_weekday_lt (hd : IsOfWeek d year week weekday) (he : IsOfWeek e year week weekday')
    (h : weekday < weekday') : d.ordinal < e.ordinal := by
  have hordinal := hd.ordinal_eq
  have hordinal' := he.ordinal_eq
  omega

/-- Days are numbered by year, week and weekday. -/
theorem ordinal_lt_of_lt (hd : IsOfWeek d year week weekday) (he : IsOfWeek e year' week' weekday')
    (h : [year, week, weekday] < [year', week', weekday']) : d.ordinal < e.ordinal := by
  simp only [List.cons_lt_cons_iff, List.not_lt_nil, and_false, or_false] at h
  rcases h with hyear | ⟨rfl, hweek | ⟨rfl, hweekday⟩⟩
  · exact hd.lt_of_year_lt he hyear
  · exact hd.lt_of_week_lt he hweek
  · exact hd.lt_of_weekday_lt he hweekday

end IsOfWeek

end Date

end IssueQuery
