/-!
# Dates

Days of the Gregorian calendar from year 1 to year 9999, and their numbering from the first of
January of year 1.
-/

namespace IssueQuery

namespace Calendar

/-- Whether a year has a 29th of February. -/
def isLeap (year : Nat) : Bool :=
  year % 4 = 0 && (year % 100 ≠ 0 || year % 400 = 0)

/-- The number of days of a month; zero for what is no month. -/
def daysInMonth (year month : Nat) : Nat :=
  match month with
  | 1 | 3 | 5 | 7 | 8 | 10 | 12 => 31
  | 4 | 6 | 9 | 11 => 30
  | 2 => if isLeap year then 29 else 28
  | _ => 0

/-- The number of days of the months of a year before `month`. -/
def daysBeforeMonth (year : Nat) : Nat → Nat
  | 0 => 0
  | month + 1 => daysBeforeMonth year month + daysInMonth year month

/-- The number of days of the years before `year`. -/
def daysBeforeYear (year : Nat) : Nat :=
  let past := year - 1
  365 * past + past / 4 - past / 100 + past / 400

/-- The number of the last day of year 9999. -/
def lastOrdinal : Nat := 3652059

end Calendar

open Calendar

/-- A day of the calendar. -/
structure Date where
  year : Nat
  month : Nat
  day : Nat
  year_pos : 1 ≤ year
  year_le : year ≤ 9999
  day_pos : 1 ≤ day
  day_le : day ≤ daysInMonth year month
  deriving DecidableEq

namespace Date

/-- The day with the given year, month and day of the month, if there is one. -/
def ofCivil? (year month day : Nat) : Option Date :=
  if h : 1 ≤ year ∧ year ≤ 9999 ∧ 1 ≤ day ∧ day ≤ daysInMonth year month then
    some ⟨year, month, day, h.1, h.2.1, h.2.2.1, h.2.2.2⟩
  else none

/-- The first day of the calendar. -/
def first : Date :=
  ⟨1, 1, 1, by decide, by decide, by decide, by decide⟩

instance : Inhabited Date := ⟨first⟩

/-- The number of a day; the first day has number one. -/
def ordinal (d : Date) : Nat :=
  daysBeforeYear d.year + daysBeforeMonth d.year d.month + d.day

/-- The year of the day with a given number: an estimate from the mean length of a year, which is
off by one at most. -/
def yearOfOrdinal (n : Nat) : Nat :=
  let guess := (n - 1) * 400 / 146097 + 1
  if n ≤ daysBeforeYear guess then guess - 1
  else if daysBeforeYear (guess + 1) < n then guess + 1
  else guess

/-- The month of the `n`-th day of a year, searched from `month` on. -/
def monthOfDay (year n : Nat) : List Nat → Nat
  | [] => 12
  | month :: months =>
    if n ≤ daysBeforeMonth year (month + 1) then month else monthOfDay year n months

/-- The day with a given number, if it lies in the calendar. -/
def ofOrdinal? (n : Int) : Option Date :=
  if 1 ≤ n ∧ n ≤ lastOrdinal then
    let n := n.toNat
    let year := yearOfOrdinal n
    let inYear := n - daysBeforeYear year
    let month := monthOfDay year inYear [1, 2, 3, 4, 5, 6, 7, 8, 9, 10, 11]
    ofCivil? year month (inYear - daysBeforeMonth year month)
  else none

/-- The day of the week, Monday being zero. -/
def weekday (d : Date) : Nat :=
  (d.ordinal + 6) % 7

/-- The first day of the month. -/
def monthStart (d : Date) : Date :=
  { d with day := 1, day_pos := Nat.le_refl 1, day_le := Nat.le_trans d.day_pos d.day_le }

/-- The first day of the month before the one that `d` lies in. -/
def previousMonthStart? (d : Date) : Option Date :=
  if d.month = 1 then ofCivil? (d.year - 1) 12 1 else ofCivil? d.year (d.month - 1) 1

/-- The number of the Monday of the first week of a year, the week that holds its first
Thursday. -/
def firstMonday (year : Nat) : Int :=
  let newYear : Int := daysBeforeYear year + 1
  let weekday := (newYear + 6) % 7
  if weekday ≤ 3 then newYear - weekday else newYear - weekday + 7

/-- The day with the given weekday, Monday being one, in the given week of a year. -/
def ofWeek? (year week weekday : Nat) : Option Date :=
  let start := firstMonday year + 7 * ((week : Int) - 1)
  if 1 ≤ year ∧ year ≤ 9999 ∧ 1 ≤ week ∧ week ≤ 53 ∧ 1 ≤ weekday ∧ weekday ≤ 7 ∧
      (week = 53 → start < firstMonday (year + 1)) then
    ofOrdinal? (start + weekday - 1)
  else none

/-- The decimal digits of `n`, padded with zeros to `width`. -/
def padded (width n : Nat) : List Char :=
  let digits := Nat.toDigits 10 n
  List.replicate (width - digits.length) '0' ++ digits

/-- The text `YYYY-MM-DD` of a day. -/
def isoChars (d : Date) : List Char :=
  padded 4 d.year ++ '-' :: padded 2 d.month ++ '-' :: padded 2 d.day

/-- The text `YYYY-MM-DD` of a day. -/
def isoText (d : Date) : String :=
  String.ofList d.isoChars

end Date

end IssueQuery
