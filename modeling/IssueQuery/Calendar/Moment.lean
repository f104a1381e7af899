import IssueQuery.Calendar.Date

/-!
# Times of day, offsets and moments

A moment is a day, a time of that day and the distance of the local clock from universal time.
Moments are compared by their instants, the microseconds of universal time that they stand for.
-/

namespace IssueQuery

open Calendar

/-- A time of day in microseconds since midnight. -/
structure ClockTime where
  micros : Nat
  lt_day : micros < 86400000000
  deriving DecidableEq

/-- The distance of a local clock from universal time in microseconds, less than a day. -/
structure Offset where
  micros : Int
  gt_day : -86400000000 < micros
  lt_day : micros < 86400000000
  deriving DecidableEq

/-- A day and a time of day, with or without the offset of the clock that shows them. -/
structure DateTime where
  date : Date
  clock : ClockTime
  offset : Option Offset
  deriving DecidableEq

/-- A day and a time of day on a clock with a known offset. -/
structure Moment where
  date : Date
  clock : ClockTime
  offset : Offset
  deriving DecidableEq

namespace ClockTime

def midnight : ClockTime := ⟨0, by decide⟩

instance : Inhabited ClockTime := ⟨midnight⟩

/-- The time with the given hour, minute, second and microsecond, if a clock shows it. -/
def ofParts? (hour minute second micro : Nat) : Option ClockTime :=
  if h : hour < 24 ∧ minute < 60 ∧ second < 60 ∧ micro < 1000000 then
    some ⟨((hour * 60 + minute) * 60 + second) * 1000000 + micro, by omega⟩
  else none

def hour (t : ClockTime) : Nat := t.micros / 3600000000
def minute (t : ClockTime) : Nat := t.micros / 60000000 % 60
def second (t : ClockTime) : Nat := t.micros / 1000000 % 60
def micro (t : ClockTime) : Nat := t.micros % 1000000

end ClockTime

namespace Offset

/-- The offset of universal time. -/
def utc : Offset := ⟨0, by decide, by decide⟩

instance : Inhabited Offset := ⟨utc⟩

/-- The offset of the given size, if it is less than a day. -/
def ofMicros? (n : Int) : Option Offset :=
  if h : -86400000000 < n ∧ n < 86400000000 then some ⟨n, h.1, h.2⟩ else none

end Offset

/-- The digits of a time of day or an offset: hour and minute, then the second if it or the
microsecond is asked for, and the microsecond if it is not zero. -/
def clockChars (micros : Nat) (withSecond : Bool) : List Char :=
  let second := micros / 1000000 % 60
  let micro := micros % 1000000
  Date.padded 2 (micros / 3600000000) ++ ':' :: Date.padded 2 (micros / 60000000 % 60) ++
    (if withSecond || second ≠ 0 || micro ≠ 0 then ':' :: Date.padded 2 second else []) ++
    (if micro ≠ 0 then '.' :: Date.padded 6 micro else [])

/-- The text of an offset: a sign, hours and minutes, and what is finer only if there is any. -/
def Offset.chars (o : Offset) : List Char :=
  (if o.micros < 0 then '-' else '+') :: clockChars o.micros.natAbs false

namespace DateTime

/-- The text `YYYY-MM-DD<separator>HH:MM:SS`, with microseconds and offset if there are any. -/
def charsWith (separator : Char) (t : DateTime) : List Char :=
  t.date.isoChars ++ separator :: clockChars t.clock.micros true ++
    (match t.offset with
     | some o => o.chars
     | none => [])

/-- The text of a date and time as it is exchanged. -/
def isoText (t : DateTime) : String :=
  String.ofList (t.charsWith 'T')

/-- Reads a clock without a known offset as showing universal time. -/
def toMoment (t : DateTime) : Moment :=
  ⟨t.date, t.clock, t.offset.getD .utc⟩

end DateTime

namespace Moment

/-- The date and time that a moment shows. -/
def toDateTime (m : Moment) : DateTime :=
  ⟨m.date, m.clock, some m.offset⟩

/-- The text of a moment as it is exchanged. -/
def isoText (m : Moment) : String :=
  m.toDateTime.isoText

/-- The microseconds on the local clock since the day before the calendar begins. -/
def localMicros (m : Moment) : Int :=
  (m.date.ordinal * 86400000000 + m.clock.micros : Nat)

/-- The microseconds of universal time since the day before the calendar begins. -/
def instant (m : Moment) : Int :=
  m.localMicros - m.offset.micros

/-- The moment whose clock shows `n` microseconds, if it lies in the calendar. -/
def ofLocalMicros? (n : Int) (offset : Offset) : Option Moment :=
  (Date.ofOrdinal? (n / 86400000000)).map fun date =>
    ⟨date, ⟨(n % 86400000000).toNat, by omega⟩, offset⟩

/-- The moment `n` microseconds later on the same clock, if it lies in the calendar. -/
def shift? (m : Moment) (n : Int) : Option Moment :=
  ofLocalMicros? (m.localMicros + n) m.offset

/-- The beginning of the day of a moment. -/
def midnight (m : Moment) : Moment :=
  { m with clock := .midnight }

/-- The microseconds of a number of hours. -/
def hours (n : Int) : Int := n * 3600000000

/-- The microseconds of a number of days. -/
def days (n : Int) : Int := n * 86400000000

/-- Midnight of the first day of 1970 in universal time, in microseconds. -/
def epoch : Int := days 719163

/-- The moment that lies `n` microseconds after the beginning of 1970 in universal time. -/
def ofEpochMicros? (n : Int) : Option Moment :=
  ofLocalMicros? (epoch + n) .utc

end Moment

end IssueQuery
