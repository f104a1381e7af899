import IssueQuery.Calendar.Moment
import IssueQuery.Text.Blank
import IssueQuery.Text.Case
import IssueQuery.Text.Digit

/-!
# Time keywords

The words that stand for a moment relative to the present: the beginning of a named day, week or
month, or a number of hours, days, weeks, months or years ago.
-/

namespace IssueQuery

/-- The units of relative times. -/
inductive TimeUnit where
  | hour
  | day
  | week
  | month
  | year
  deriving DecidableEq

/-- The length of a unit in hours; a month counts as 30 days and a year as 365. -/
def TimeUnit.hours : TimeUnit → Nat
  | .hour => 1
  | .day => 24
  | .week => 7 * 24
  | .month => 30 * 24
  | .year => 365 * 24

/-- The letter that stands for a unit. -/
def TimeUnit.ofChar? : Char → Option TimeUnit
  | 'h' => some .hour
  | 'd' => some .day
  | 'w' => some .week
  | 'm' => some .month
  | 'y' => some .year
  | _ => none

/-- A word that stands for a moment relative to the present. -/
inductive TimeKeyword where
  | today
  | yesterday
  | thisWeek
  | lastWeek
  | thisMonth
  | lastMonth
  /-- `amount` units before now. -/
  | ago (amount : Nat) (unit : TimeUnit)
  deriving DecidableEq

/-- Why a keyword stands for no moment. -/
inductive TimeError where
  /-- The moment lies outside the years 1 to 9999. -/
  | outOfRange
  /-- There is no month before the first one of the calendar. -/
  | noEarlierMonth
  deriving DecidableEq

namespace TimeKeyword

/-- The words of the vocabulary. -/
def words : List String :=
  ["today", "yesterday", "this_week", "last_week", "this_month", "last_month"]

/-- Whether characters are a decimal amount and the letter of a unit, small or capital. -/
def isAgo (cs : List Char) : Bool :=
  match cs.takeWhile Text.isDecimal, cs.dropWhile Text.isDecimal with
  | _ :: _, [c] => ['h', 'd', 'w', 'm', 'y'].contains c.toLower
  | _, _ => false

/-- Whether a text belongs to the vocabulary, letter case and blanks at its ends aside. -/
def recognises (s : String) : Bool :=
  let word := Text.lower (Text.trim s)
  words.contains word || isAgo word.toList

/-- The keywords that the words stand for. -/
def named : List (String × TimeKeyword) := [
  ("today", today),
  ("yesterday", yesterday),
  ("this_week", thisWeek),
  ("last_week", lastWeek),
  ("this_month", thisMonth),
  ("last_month", lastMonth)]

/-- Reads a decimal amount of any size and the letter of a unit. -/
def readAgo? (cs : List Char) : Option TimeKeyword :=
  let amount := cs.takeWhile Text.isDecimal
  match amount.isEmpty, cs.dropWhile Text.isDecimal with
  | false, [c] => (TimeUnit.ofChar? c).map (ago (Text.decimalValue amount))
  | _, _ => none

/-- The keyword that a text spells, letter case and blanks at its ends aside. -/
def read? (s : String) : Option TimeKeyword :=
  let word := Text.lower (Text.trim s)
  (named.lookup word).or (readAgo? word.toList)

/-- The moment that a shift leads to. -/
def reached (m : Option Moment) : Except TimeError Moment :=
  match m with
  | some m => .ok m
  | none => .error .outOfRange

/-- The moment that a keyword stands for at the moment `now`. -/
def resolve (now : Moment) : TimeKeyword → Except TimeError Moment
  | today => .ok now.midnight
  | yesterday => reached (now.midnight.shift? (-Moment.days 1))
  | thisWeek => reached (now.midnight.shift? (-Moment.days now.date.weekday))
  | lastWeek => reached (now.midnight.shift? (-Moment.days (now.date.weekday + 7)))
  | thisMonth => .ok { now.midnight with date := now.date.monthStart }
  | lastMonth =>
    match now.date.previousMonthStart? with
    | some date => .ok { now.midnight with date }
    | none => .error .noEarlierMonth
  | ago amount unit => reached (now.shift? (-Moment.hours (amount * unit.hours)))

end TimeKeyword

end IssueQuery
