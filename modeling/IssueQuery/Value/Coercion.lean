import IssueQuery.Calendar.Iso
import IssueQuery.Number.Numeral
import IssueQuery.Value.Basic

/-!
# Values as numbers and as moments

Comparisons read both of their sides as numbers if they can, and else as moments.  A text that
spells a number is a number and never a moment; a number is a moment by its milliseconds since the
beginning of 1970.
-/

namespace IssueQuery

namespace Number

/-- The seconds that a number of milliseconds makes, to double precision. -/
def secondsOfMillis : Number → Double
  | .int n => Double.round (n / 1000)
  | .double x => x.divNat 1000

/-- The moment that lies a number of milliseconds after the beginning of 1970, to the nearest
microsecond. -/
def toMoment? (n : Number) : Option Moment :=
  match n.secondsOfMillis.toRat? with
  | none => none
  | some q =>
    let whole := if q < 0 then -(-q).floor else q.floor
    match (Double.round ((q - whole) * 1000000)).toRat? with
    | none => none
    | some micros => Moment.ofEpochMicros? (whole * 1000000 + roundEven micros)

end Number

namespace Value

/-- Writes the mark of universal time as an offset. -/
def spellOutUtc (cs : List Char) : List Char :=
  cs.flatMap fun c => if c = 'Z' then ['+', '0', '0', ':', '0', '0'] else [c]

/-- The moment that a text stands for, blanks at its ends aside; a numeral stands for none. -/
def readMoment? (s : String) : Option Moment :=
  let cs := Text.trimChars s.toList
  if (Number.Numeral.read? cs).isSome then none
  else (Iso.readChars? (spellOutUtc cs)).map DateTime.toMoment

/-- A value as a number; truth values are no numbers. -/
def toNumber? : Value → Option Number
  | .number (.double .nan) => none
  | .number n => some n
  | .string s => Number.read? s
  | _ => none

/-- A value as a moment. -/
def toMoment? : Value → Option Moment
  | .dateTime t => some t.toMoment
  | .date d => some ⟨d, .midnight, .utc⟩
  | .string s => readMoment? s
  | .number n => n.toMoment?
  | _ => none

/-- Whether a value counts as empty: nothing, a blank text, or a list or object without parts. -/
def isEmpty : Value → Bool
  | .null => true
  | .string s => Text.isBlankText s
  | .list items => items.isEmpty
  | .object fields => fields.isEmpty
  | _ => false

/-- Whether a value is a number; truth values are none. -/
def isNumber : Value → Bool
  | .number _ => true
  | _ => false

end Value

end IssueQuery
