import IssueQuery.Proofs.Calendar.Instant
import IssueQuery.Proofs.Calendar.Keyword
import IssueQuery.Proofs.Text.Lower

/-!
# Periods that keywords name

At a moment of universal time the named days, weeks and months begin where the calendar has them
begin, and relative times count back from the moment itself.  Nothing but the beginning of the
calendar keeps a keyword from standing for a moment.
-/

namespace IssueQuery

open Calendar

/-! ## Months in their order -/

namespace Date

variable {d e : Date}

/-- The number of a month, counted through the years. -/
def monthIndex (d : Date) : Nat :=
  12 * d.year + d.month

/-- The number of days of the month before the one of a day. -/
def precedingMonthDays (d : Date) : Nat :=
  if d.month = 1 then daysInMonth (d.year - 1) 12 else daysInMonth d.year (d.month - 1)

theorem ordinal_lt_of_monthIndex_lt (h : d.monthIndex < e.monthIndex) : d.ordinal < e.ordinal := by
  have hd := d.month_mem
  have he := e.month_mem
  simp only [monthIndex] at h
  rcases lt_trichotomy d.year e.year with hyear | hyear | hyear
  · exact ordinal_lt_of_year_lt hyear
  · exact ordinal_lt_of_month_lt hyear (by omega)
  · omega

/-- No day of a month comes before its first one. -/
theorem ordinal_le_of_monthIndex_le (hfirst : d.day = 1) (h : d.monthIndex ≤ e.monthIndex) :
    d.ordinal ≤ e.ordinal := by
  rcases h.lt_or_eq with hlt | heq
  · exact (ordinal_lt_of_monthIndex_lt hlt).le
  · have hd := d.month_mem
    have he := e.month_mem
    have hday := e.day_pos
    simp only [monthIndex] at heq
    rw [ordinal, ordinal, hfirst, show d.year = e.year by omega, show d.month = e.month by omega]
    omega

/-- The month before the one of a day is a month of the calendar, unless it is its first one. -/
theorem previousMonthStart?_eq_some_iff :
    d.previousMonthStart? = some e ↔ e.day = 1 ∧ e.monthIndex + 1 = d.monthIndex := by
  have hd := d.month_mem
  have he := e.month_mem
  have hyear := d.year_pos
  simp only [previousMonthStart?, monthIndex]
  split_ifs with hmonth
  · rw [ofCivil?_eq_some_iff]
    omega
  · rw [ofCivil?_eq_some_iff]
    omega

theorem previousMonthStart?_eq_none_iff :
    d.previousMonthStart? = none ↔ d.year = 1 ∧ d.month = 1 := by
  have hmonths := d.month_mem
  have hyear := d.year_pos
  have hlast := d.year_le
  rw [previousMonthStart?]
  split_ifs with hmonth
  · have hlength : daysInMonth (d.year - 1) 12 = 31 := rfl
    rw [ofCivil?_eq_none_iff]
    omega
  · have hlength : 1 ≤ daysInMonth d.year (d.month - 1) := daysInMonth_pos (by omega)
    rw [ofCivil?_eq_none_iff]
    omega

theorem ordinal_monthStart (d : Date) :
    d.monthStart.ordinal = daysBeforeYear d.year + daysBeforeMonth d.year d.month + 1 := rfl

/-- A month begins as many days after the one before it as that one has. -/
theorem ordinal_monthStart_of_previousMonthStart? (h : d.previousMonthStart? = some e) :
    d.monthStart.ordinal = e.ordinal + d.precedingMonthDays := by
  rw [previousMonthStart?] at h
  rw [precedingMonthDays]
  split_ifs at h ⊢ with hmonth
  · obtain ⟨hyear, hlast, hfirst⟩ := ofCivil?_eq_some_iff.mp h
    have hpos := e.year_pos
    have hlength := daysBeforeMonth_thirteen e.year
    rw [daysBeforeMonth] at hlength
    have hsucc := daysBeforeYear_succ hpos
    rw [show e.year + 1 = d.year by omega] at hsucc
    have hnone : daysBeforeMonth d.year 1 = 0 := rfl
    rw [ordinal_monthStart, ordinal, hmonth, hlast, hfirst, ← hyear]
    omega
  · obtain ⟨hyear, hbefore, hfirst⟩ := ofCivil?_eq_some_iff.mp h
    have hmonths := d.month_mem
    have hsucc : daysBeforeMonth d.year (d.month - 1 + 1) =
        daysBeforeMonth d.year (d.month - 1) + daysInMonth d.year (d.month - 1) := rfl
    rw [show d.month - 1 + 1 = d.month by omega] at hsucc
    rw [ordinal_monthStart, ordinal, hyear, hbefore, hfirst]
    omega

/-- The month before the one of a day begins in the calendar or before it. -/
theorem previousMonthStart?_eq_none_iff_ordinal :
    d.previousMonthStart? = none ↔ d.monthStart.ordinal ≤ d.precedingMonthDays := by
  cases h : d.previousMonthStart? with
  | none =>
      obtain ⟨hyear, hmonth⟩ := previousMonthStart?_eq_none_iff.mp h
      have hordinal : d.monthStart.ordinal = 1 := by
        rw [ordinal_monthStart, hyear, hmonth]
        rfl
      refine iff_of_true rfl ?_
      rw [hordinal, precedingMonthDays, if_pos hmonth]
      exact daysInMonth_pos (by decide)
  | some e =>
      have hordinal := ordinal_monthStart_of_previousMonthStart? h
      have hpos := e.ordinal_pos
      exact iff_of_false nofun (by omega)

end Date

/-! ## Moments of universal time -/

namespace Moment

variable {m now : Moment} {n : Int}

/-- A clock of universal time shows midnight. -/
def IsMidnight (m : Moment) : Prop :=
  m.clock = .midnight ∧ m.offset = .utc

/-- A month begins. -/
def IsMonthStart (m : Moment) : Prop :=
  m.IsMidnight ∧ m.date.day = 1

/-- The longest time that can be counted back: a thousand million days without a microsecond. -/
def longestTime : Int := days 1000000000 - 1

theorem instant_of_utc (h : m.offset = .utc) : m.instant = m.localMicros := by
  rw [instant, h]
  exact Int.sub_zero _

theorem IsMidnight.instant_eq (h : m.IsMidnight) : m.instant = days m.date.ordinal := by
  rw [instant_of_utc h.2, localMicros, h.1]
  simp [days, ClockTime.midnight]

/-- A whole number of days after the day before the calendar begins, it is midnight. -/
theorem isMidnight_of_instant (hm : m.offset = .utc) (h : m.instant = days n) :
    m.IsMidnight ∧ m.date.ordinal = n := by
  have hclock := m.clock.lt_day
  rw [instant_of_utc hm] at h
  simp only [localMicros, days] at h
  have hzero : m.clock.micros = 0 := by omega
  refine ⟨⟨?_, hm⟩, by omega⟩
  cases hc : m.clock with
  | mk micros lt_day =>
      rw [hc] at hzero
      subst hzero
      rfl

theorem isMidnight_midnight (h : now.offset = .utc) : now.midnight.IsMidnight :=
  ⟨rfl, h⟩

/-- A moment lies between the midnights around it. -/
theorem midnight_le_instant (h : now.offset = .utc) : now.midnight.instant ≤ now.instant ∧
    now.instant < now.midnight.instant + days 1 := by
  rw [(isMidnight_midnight h).instant_eq, instant_of_utc h]
  have hdate : now.midnight.date = now.date := rfl
  rw [hdate]
  exact (date_eq_iff now now.date).mp rfl

theorem IsMonthStart.instant_le {m' : Moment} (hm : m.IsMonthStart) (hm' : m'.IsMidnight)
    (h : m.date.monthIndex ≤ m'.date.monthIndex) : m.instant ≤ m'.instant := by
  have hordinal := Date.ordinal_le_of_monthIndex_le hm.2 h
  rw [hm.1.instant_eq, hm'.instant_eq]
  simp only [days]
  omega

/-- No month begins between the beginnings of a month and of the next one. -/
theorem IsMonthStart.not_between {last next : Moment} (hm : m.IsMonthStart)
    (hlast : last.IsMonthStart) (hnext : next.IsMonthStart)
    (h : last.date.monthIndex + 1 = next.date.monthIndex) :
    ¬(last.instant < m.instant ∧ m.instant < next.instant) := by
  rintro ⟨hafter, hbefore⟩
  by_cases hindex : m.date.monthIndex ≤ last.date.monthIndex
  · exact absurd (hm.instant_le hlast.1 hindex) (not_le.mpr hafter)
  · exact absurd (hnext.instant_le hm.1 (by omega)) (not_le.mpr hbefore)

/-- The beginning of the month of a moment. -/
def monthStart (m : Moment) : Moment :=
  { m.midnight with date := m.date.monthStart }

theorem isMonthStart_monthStart (h : now.offset = .utc) : now.monthStart.IsMonthStart :=
  ⟨⟨rfl, h⟩, rfl⟩

end Moment

/-! ## Keywords -/

namespace TimeKeyword

open Moment (days hours beginning IsMidnight IsMonthStart longestTime)

variable {now m : Moment} {n : Int} {k : TimeKeyword} {result : Except TimeError Moment}

/-- The time that a keyword stands for, as the clock of the present shows it. -/
def shown (now : Moment) : TimeKeyword → Int
  | today => days now.date.ordinal
  | yesterday => days (now.date.ordinal - 1)
  | thisWeek => days (now.date.ordinal - now.date.weekday)
  | lastWeek => days (now.date.ordinal - now.date.weekday - 7)
  | thisMonth => days now.date.monthStart.ordinal
  | lastMonth => days (now.date.monthStart.ordinal - now.date.precedingMonthDays)
  | ago amount unit => now.localMicros - hours (amount * unit.hours)

/-- Some days before midnight it is midnight as well. -/
theorem shows_days_before (now : Moment) (n : Nat) :
    Shows now.offset (reached (now.midnight.shift? (-days n))) (days (now.date.ordinal - n)) := by
  have hshows := shows_reached (m := now.midnight) (n := -days n) (by simp only [days]; omega)
  have hdays : now.midnight.localMicros + -days n = days (now.date.ordinal - n) := by
    rw [Moment.localMicros_midnight]
    simp only [days]
    omega
  rw [hdays] at hshows
  exact hshows

theorem resolve_lastMonth_of_none (h : now.date.previousMonthStart? = none) :
    resolve now .lastMonth = .error .noEarlierMonth := by
  rw [resolve, h]

theorem resolve_lastMonth_of_some {d : Date} (h : now.date.previousMonthStart? = some d) :
    resolve now .lastMonth = .ok { now.midnight with date := d } := by
  rw [resolve, h]

/-- The month before the one of a moment begins as many days earlier as it has. -/
theorem shows_lastMonth (now : Moment) : Shows now.offset (resolve now .lastMonth)
    (days (now.date.monthStart.ordinal - now.date.precedingMonthDays)) := by
  by_cases hprevious : now.date.previousMonthStart? = none
  · have hearly := Date.previousMonthStart?_eq_none_iff_ordinal.mp hprevious
    rw [resolve_lastMonth_of_none hprevious]
    constructor
    · intro m h
      cases h
    · refine iff_of_true ⟨_, rfl⟩ ?_
      simp only [beginning, days]
      omega
  · obtain ⟨d, hd⟩ := Option.ne_none_iff_exists'.mp hprevious
    have hordinal := Date.ordinal_monthStart_of_previousMonthStart? hd
    have hshows := shows_ok { now.midnight with date := d }
    have hshown : Moment.localMicros { now.midnight with date := d } =
        days (now.date.monthStart.ordinal - now.date.precedingMonthDays) := by
      simp only [Moment.localMicros, Moment.midnight, ClockTime.midnight, days]
      omega
    rw [hshown] at hshows
    rw [resolve_lastMonth_of_some hd]
    exact hshows

/-- On any clock, a keyword stands for the moment of its time unless this is before the calendar. -/
theorem shows_resolve (now : Moment) (k : TimeKeyword) :
    Shows now.offset (k.resolve now) (k.shown now) := by
  cases k with
  | today =>
      have hshows := shows_ok now.midnight
      rw [Moment.localMicros_midnight] at hshows
      exact hshows
  | yesterday => exact shows_days_before now 1
  | thisWeek => exact shows_days_before now now.date.weekday
  | lastWeek =>
      have hshows := shows_days_before now (now.date.weekday + 7)
      rw [Nat.cast_add, ← sub_sub] at hshows
      exact hshows
  | thisMonth =>
      have hshows := shows_ok now.monthStart
      have hmonth : now.monthStart.localMicros = days now.date.monthStart.ordinal :=
        Moment.localMicros_midnight now.monthStart
      rw [hmonth] at hshows
      exact hshows
  | lastMonth => exact shows_lastMonth now
  | ago amount unit =>
      have hlength : (0 : Int) ≤ amount * unit.hours := by positivity
      exact shows_reached (by simp only [hours]; omega)

/-- A keyword leads to a moment on the clock of the present. -/
theorem offset_of_resolve (h : k.resolve now = .ok m) : m.offset = now.offset :=
  ((shows_resolve now k).moment m h).1

/-- A keyword stands for the moment of an instant in universal time, and if it stands for none, the
calendar has not begun at that instant. -/
structure LeadsTo (result : Except TimeError Moment) (instant : Int) : Prop where
  moment : ∀ m, result = .ok m → m.offset = .utc ∧ m.instant = instant
  fails_iff : (∃ e, result = .error e) ↔ instant < beginning

/-- A clock of universal time shows the instants that keywords lead to. -/
theorem leadsTo_resolve (hnow : now.offset = .utc) (hshown : k.shown now = n) :
    LeadsTo (resolve now k) n where
  moment := by
    intro m hm
    obtain ⟨hoffset, hmicros⟩ := (shows_resolve now k).moment m hm
    have hutc := hoffset.trans hnow
    exact ⟨hutc, (Moment.instant_of_utc hutc).trans (hmicros.trans hshown)⟩
  fails_iff := by
    rw [← hshown]
    exact (shows_resolve now k).fails_iff

/-- The week of a day begins with a Monday, and the calendar begins with one. -/
theorem exists_thisWeek (hnow : now.offset = .utc) : ∃ week, resolve now .thisWeek = .ok week ∧
    week.IsMidnight ∧ week.date.weekday = 0 ∧
    week.instant = now.midnight.instant - days now.date.weekday := by
  have hmidnight : now.midnight.instant = days now.date.ordinal :=
    (Moment.isMidnight_midnight hnow).instant_eq
  have hpos := now.date.ordinal_pos
  have hweekday : now.date.weekday = (now.date.ordinal + 6) % 7 := rfl
  have hbegun : beginning ≤ shown now .thisWeek := by
    simp only [shown, beginning, days]
    omega
  obtain ⟨week, hweek, hoffset, hmicros⟩ := (shows_resolve now .thisWeek).exists_moment hbegun
  have hutc := hoffset.trans hnow
  have hinstant : week.instant = days (now.date.ordinal - now.date.weekday) :=
    (Moment.instant_of_utc hutc).trans hmicros
  obtain ⟨hstart, hordinal⟩ := Moment.isMidnight_of_instant hutc hinstant
  refine ⟨week, hweek, hstart, ?_, ?_⟩
  · rw [Date.weekday]
    omega
  · rw [hinstant, hmidnight]
    simp only [days]
    omega

theorem lastMonth_precedes (hnow : now.offset = .utc) {last : Moment}
    (h : resolve now .lastMonth = .ok last) :
    last.IsMonthStart ∧ last.date.monthIndex + 1 = now.monthStart.date.monthIndex := by
  by_cases hprevious : now.date.previousMonthStart? = none
  · rw [resolve_lastMonth_of_none hprevious] at h
    cases h
  · obtain ⟨d, hd⟩ := Option.ne_none_iff_exists'.mp hprevious
    obtain ⟨hfirst, hindex⟩ := Date.previousMonthStart?_eq_some_iff.mp hd
    rw [resolve_lastMonth_of_some hd] at h
    obtain rfl := Except.ok.inj h
    exact ⟨⟨⟨rfl, hnow⟩, hfirst⟩, hindex⟩

theorem leadsTo_ago (hnow : now.offset = .utc) (amount : Nat) (unit : TimeUnit) :
    LeadsTo (resolve now (.ago amount unit)) (now.instant - hours (amount * unit.hours)) := by
  apply leadsTo_resolve hnow
  rw [Moment.instant_of_utc hnow]
  rfl

/-- What lies longer ago than can be counted back lies before the calendar. -/
theorem lt_beginning_of_longestTime_lt (hnow : now.offset = .utc) (h : longestTime < n) :
    now.instant - n < beginning := by
  have hlast := now.localMicros_lt
  rw [Moment.instant_of_utc hnow]
  simp only [longestTime, beginning, days, lastOrdinal] at h hlast ⊢
  omega

/-! ## Spellings -/

/-- A text spells a keyword, blanks at its ends and letter case aside: it is one of the names, or a
run of decimal digits and the letter of a unit. -/
inductive Spells (s : String) : TimeKeyword → Prop where
  | name {k : TimeKeyword} : (Text.lower (Text.trim s), k) ∈ named → Spells s k
  | ago {amount : List Char} {letter : Char} {unit : TimeUnit} :
      (Text.trim s).toList = amount ++ [letter] → amount ≠ [] →
      (∀ c ∈ amount, Text.isDecimal c) → TimeUnit.ofChar? letter.toLower = some unit →
      Spells s (.ago (Text.decimalValue amount) unit)

theorem isAscii_of_ofChar? {letter : Char} {unit : TimeUnit}
    (h : TimeUnit.ofChar? letter.toLower = some unit) : Text.Case.isAscii letter := by
  have hmem := mem_unitChars (show isUnitChar letter.toLower by rw [isUnitChar, h]; rfl)
  have halpha : letter.toLower.isAlpha := by
    simp only [List.mem_cons, List.not_mem_nil, or_false] at hmem
    rcases hmem with h | h | h | h | h
    all_goals rw [h]; decide
  rw [Char.isAlpha_toLower_eq_isAlpha] at halpha
  exact Text.Case.isAscii_of_isAlphanum (by rw [Char.isAlphanum, halpha]; rfl)

/-- The lower case of a relative time keeps its digits. -/
theorem lowerFrom_append {amount : List Char} {letter : Char}
    (hamount : ∀ c ∈ amount, Text.isDecimal c) (hletter : Text.Case.isAscii letter)
    (casedBefore : Bool) : Text.Case.lowerFrom casedBefore (amount ++ [letter]) =
      amount ++ [letter.toLower] := by
  induction amount generalizing casedBefore with
  | nil =>
      rw [List.nil_append, Text.Case.lowerFrom, Text.Case.lowerIn_of_isAscii hletter]
      rfl
  | cons c amount ih =>
      rw [List.cons_append, Text.Case.lowerFrom,
        Text.Case.lowerIn_of_isDecimal (hamount c List.mem_cons_self),
        ih fun d hd => hamount d (List.mem_cons_of_mem c hd)]
      rfl

theorem readAgo?_append {amount : List Char} {letter : Char} {unit : TimeUnit} (hne : amount ≠ [])
    (hamount : ∀ c ∈ amount, Text.isDecimal c) (hunit : TimeUnit.ofChar? letter = some unit) :
    readAgo? (amount ++ [letter]) = some (.ago (Text.decimalValue amount) unit) := by
  have hletter : Text.isDecimal letter = false := by
    have hmem := mem_unitChars (show isUnitChar letter by rw [isUnitChar, hunit]; rfl)
    simp only [List.mem_cons, List.not_mem_nil, or_false] at hmem
    rcases hmem with rfl | rfl | rfl | rfl | rfl
    all_goals decide
  have htake : (amount ++ [letter]).takeWhile Text.isDecimal = amount := by
    rw [List.takeWhile_append_of_pos hamount, List.takeWhile_cons, hletter]
    exact List.append_nil _
  have hdrop : (amount ++ [letter]).dropWhile Text.isDecimal = [letter] := by
    rw [List.dropWhile_append_of_pos hamount, List.dropWhile_cons, hletter]
    rfl
  have hsome : amount.isEmpty = false := by simpa using hne
  unfold readAgo?
  rw [htake, hdrop]
  dsimp only
  rw [hsome]
  exact congrArg (Option.map _) hunit

/-- No name begins with a digit. -/
theorem lookup_named_of_isDecimal {word : String} {c : Char} {rest : List Char}
    (hword : word.toList = c :: rest) (hc : Text.isDecimal c) : named.lookup word = none := by
  rw [List.lookup_eq_none_iff]
  intro p hp
  rw [bne_iff_ne]
  rintro rfl
  have hnames : named.all fun p => p.1.toList.head?.all fun c => !Text.isDecimal c := by
    decide
  have hplain := List.all_eq_true.mp hnames p hp
  rw [hword, List.head?_cons, Option.all_some, hc] at hplain
  cases hplain

/-- A relative time is read as so many units ago. -/
theorem read?_of_lower_eq {s : String} {amount : List Char} {letter : Char} {unit : TimeUnit}
    (hlower : (Text.lower (Text.trim s)).toList = amount ++ [letter]) (hne : amount ≠ [])
    (hamount : ∀ c ∈ amount, Text.isDecimal c) (hunit : TimeUnit.ofChar? letter = some unit) :
    read? s = some (.ago (Text.decimalValue amount) unit) := by
  have hunnamed : named.lookup (Text.lower (Text.trim s)) = none := by
    obtain ⟨c, rest, rfl⟩ := List.exists_cons_of_ne_nil hne
    exact lookup_named_of_isDecimal hlower (hamount c List.mem_cons_self)
  rw [read?, hunnamed, hlower, readAgo?_append hne hamount hunit]
  rfl

/-- What spells a keyword is read as this keyword. -/
theorem read?_of_spells {s : String} {k : TimeKeyword} (h : Spells s k) : read? s = some k := by
  cases h with
  | name hname =>
      have hlookup : ∀ p ∈ named, named.lookup p.1 = some p.2 := by decide
      rw [read?, hlookup _ hname]
      rfl
  | @ago amount letter unit htext hne hamount hunit =>
      have hlower : (Text.lower (Text.trim s)).toList = amount ++ [letter.toLower] := by
        rw [Text.toList_lower, htext]
        exact lowerFrom_append hamount (isAscii_of_ofChar? hunit) false
      exact read?_of_lower_eq hlower hne hamount hunit

/-! ## Periods -/

/-- The beginnings of the day, the week and the month of a moment, and where the keywords lead from
there. -/
structure Periods (now today week month : Moment) : Prop where
  today_eq : resolve now .today = .ok today
  today_isMidnight : today.IsMidnight
  today_le : today.instant ≤ now.instant
  lt_tomorrow : now.instant < today.instant + days 1
  yesterday : LeadsTo (resolve now .yesterday) (today.instant - days 1)
  thisWeek_eq : resolve now .thisWeek = .ok week
  week_isMidnight : week.IsMidnight
  week_monday : week.date.weekday = 0
  week_le : week.instant ≤ today.instant
  lt_nextWeek : today.instant < week.instant + days 7
  lastWeek : LeadsTo (resolve now .lastWeek) (week.instant - days 7)
  thisMonth_eq : resolve now .thisMonth = .ok month
  month_isMonthStart : month.IsMonthStart
  month_eq : month.date.year = now.date.year ∧ month.date.month = now.date.month
  lastMonth : LeadsTo (resolve now .lastMonth)
    (month.instant - days month.date.precedingMonthDays)
  /-- The month before is the one that the calendar counts before this month. -/
  lastMonth_precedes : ∀ last, resolve now .lastMonth = .ok last →
    last.IsMonthStart ∧ last.date.monthIndex + 1 = month.date.monthIndex ∧
    last.instant < month.instant ∧
    ∀ m : Moment, m.IsMonthStart → ¬(last.instant < m.instant ∧ m.instant < month.instant)
  ago : ∀ (amount : Nat) (unit : TimeUnit),
    LeadsTo (resolve now (.ago amount unit)) (now.instant - hours (amount * unit.hours))
  ago_fails_iff : ∀ (amount : Nat) (unit : TimeUnit),
    (∃ e, resolve now (.ago amount unit) = .error e) ↔
      now.instant - hours (amount * unit.hours) < beginning ∨
        longestTime < hours (amount * unit.hours)

theorem exists_periods (hnow : now.offset = .utc) :
    ∃ today week month, Periods now today week month := by
  obtain ⟨hfrom, huntil⟩ := Moment.midnight_le_instant hnow
  obtain ⟨week, hweek, hstart, hmonday, hinstant⟩ := exists_thisWeek hnow
  have hweekday : now.date.weekday < 7 := Nat.mod_lt _ (by decide)
  have hmidnight : now.midnight.instant = days now.date.ordinal :=
    (Moment.isMidnight_midnight hnow).instant_eq
  have hmonthStart : now.monthStart.instant = days now.date.monthStart.ordinal :=
    (Moment.isMonthStart_monthStart hnow).1.instant_eq
  have hlength : now.monthStart.date.precedingMonthDays = now.date.precedingMonthDays := rfl
  refine ⟨now.midnight, week, now.monthStart, ?_⟩
  exact {
    today_eq := rfl
    today_isMidnight := Moment.isMidnight_midnight hnow
    today_le := hfrom
    lt_tomorrow := huntil
    yesterday := by
      apply leadsTo_resolve hnow
      rw [hmidnight]
      simp only [shown, days]
      omega
    thisWeek_eq := hweek
    week_isMidnight := hstart
    week_monday := hmonday
    week_le := by
      rw [hinstant]
      simp only [days]
      omega
    lt_nextWeek := by
      rw [hinstant]
      simp only [days]
      omega
    lastWeek := by
      apply leadsTo_resolve hnow
      rw [hinstant, hmidnight]
      simp only [shown, days]
      omega
    thisMonth_eq := rfl
    month_isMonthStart := Moment.isMonthStart_monthStart hnow
    month_eq := ⟨rfl, rfl⟩
    lastMonth := by
      apply leadsTo_resolve hnow
      rw [hmonthStart, hlength]
      simp only [shown, days]
      omega
    lastMonth_precedes := by
      intro last hlast
      obtain ⟨hfirst, hindex⟩ := lastMonth_precedes hnow hlast
      have hmonth := Moment.isMonthStart_monthStart hnow
      refine ⟨hfirst, hindex, ?_, fun m hm => hm.not_between hfirst hmonth hindex⟩
      have hordinal : last.date.ordinal < now.monthStart.date.ordinal :=
        Date.ordinal_lt_of_monthIndex_lt (by omega)
      rw [hfirst.1.instant_eq, hmonth.1.instant_eq]
      simp only [days]
      omega
    ago := leadsTo_ago hnow
    ago_fails_iff := by
      intro amount unit
      rw [(leadsTo_ago hnow amount unit).fails_iff, iff_self_or]
      exact lt_beginning_of_longestTime_lt hnow }

/-- At a moment of universal time keywords are read letter case and blanks aside, and they lead to
the beginnings of days, weeks and months or so many hours back, unless this is before the
calendar. -/
theorem keywords_name_periods (now : Moment) (hnow : now.offset = .utc) :
    (∀ (s : String) (k : TimeKeyword), Spells s k → read? s = some k) ∧
      ∃ today week month, Periods now today week month :=
  ⟨fun _ _ => read?_of_spells, exists_periods hnow⟩

/-- At noon of the first day of 2024, a Monday, the week begins with the day, and the month before
is the last one of 2023. -/
theorem keywords_name_periods_new_year :
    let now : Moment := ⟨⟨2024, 1, 1, by decide, by decide, by decide, by decide⟩,
      ⟨43200000000, by decide⟩, .utc⟩
    read? " 2W" = some (.ago 2 .week) ∧ ∃ month last, Periods now now.midnight now.midnight month ∧
      resolve now .lastMonth = .ok last ∧ last.date.year = 2023 ∧ last.date.month = 12 := by
  intro now
  obtain ⟨hread, today, week, month, hperiods⟩ := keywords_name_periods now rfl
  have hspells : Spells " 2W" (.ago (Text.decimalValue ['2']) .week) := by
    refine @Spells.ago _ ['2'] 'W' .week ?_ ?_ ?_ ?_
    · rw [Text.toList_trim]
      rfl
    · exact List.cons_ne_nil _ _
    · exact List.forall_mem_singleton.mpr (by decide)
    · rfl
  have hweek : resolve now .thisWeek = .ok now.midnight := by decide +kernel
  obtain rfl : now.midnight = today := Except.ok.inj hperiods.today_eq
  obtain rfl : now.midnight = week := Except.ok.inj (hweek.symm.trans hperiods.thisWeek_eq)
  exact ⟨hread _ _ hspells, month, _, hperiods, rfl, rfl, rfl⟩

end TimeKeyword

end IssueQuery
