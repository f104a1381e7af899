import IssueQuery.Calendar.Keyword
import IssueQuery.Record.Resolution
import IssueQuery.Value.Text

/-!
# Equality and membership

When a value of a record counts as equal to an operand: a list does if one of its elements does, a
date if it lies on the day that a time keyword stands for, numbers if they are the same number, and
texts if they agree apart from letter case and blanks at their ends.
-/

namespace IssueQuery.Match

/-- The time keyword that an operand spells. -/
def keyword? : Value → Option TimeKeyword
  | .string s => TimeKeyword.read? s
  | _ => none

/-- The moment that a text or a date with a time stands for. -/
def writtenMoment? : Value → Option Moment
  | .string s => Value.readMoment? s
  | .dateTime t => some t.toMoment
  | _ => none

def isString : Value → Bool
  | .string _ => true
  | _ => false

/-- The label of a value without letter case and blanks at its ends. -/
def plainLabel (v : Value) : String :=
  Text.lower (Text.trim v.label)

/-- Equality of single values, time keywords aside. -/
def sameValue (actual expected : Value) : Bool :=
  match actual.toNumber?, expected.toNumber? with
  | some m, some n => m.same n
  | _, _ =>
    if isString actual || isString expected then plainLabel actual == plainLabel expected
    else actual.same expected

/-- Equality of single values: a moment equals a keyword if it lies on the day of the keyword, each
on its own clock. -/
def equalsOne (now : Moment) (expected actual : Value) : Except TimeError Bool :=
  match keyword? expected, writtenMoment? actual with
  | some k, some m => do return m.date = (← k.resolve now).date
  | _, _ => .ok (sameValue actual expected)

/-- Whether an operand asks for nothing. -/
def asksForNothing : Value → Bool
  | .null => true
  | .string s => s = "null"
  | _ => false

mutual

/-- Whether a value of a record equals an operand. -/
def equals (now : Moment) (expected : Value) : Value → Except TimeError Bool
  | .list items => equalsAny now expected items
  | .null => .ok (asksForNothing expected)
  | .bool b => equalsOne now expected (.bool b)
  | .number n => equalsOne now expected (.number n)
  | .string s => equalsOne now expected (.string s)
  | .object fields => equalsOne now expected (.object fields)
  | .dateTime t => equalsOne now expected (.dateTime t)
  | .date d => equalsOne now expected (.date d)

/-- Whether one of several values equals an operand; those behind the first one that does are not
looked at. -/
def equalsAny (now : Moment) (expected : Value) : List Value → Except TimeError Bool
  | [] => .ok false
  | v :: vs => do
    if ← equals now expected v then return true else equalsAny now expected vs

end

/-- Whether a label is among those of the operands. -/
def isAmong (wanted : List String) (v : Value) : Bool :=
  wanted.contains v.lowerLabel

/-- Whether a field has one of the values of a list: an element of its own list, nothing if that is
asked for, or one of the values under which it may be looked for. -/
def oneOf (record : Record) (field : String) (operand : Value) : Bool :=
  match operand with
  | .list expected =>
    let wanted := expected.map Value.lowerLabel
    match record.resolve field with
    | .list items => items.any (isAmong wanted)
    | .null => wanted.contains "null"
    | _ => (record.candidates field).any (isAmong wanted)
  | _ => false

end IssueQuery.Match
