import IssueQuery.Text.Case
import IssueQuery.Text.Quoted
import IssueQuery.Value.Basic

/-!
# Texts of values

Two spellings of a value as text.  The label is the one that comparisons, groups and users see: a
list is its elements between commas, and an integral number has no point.  The display form keeps
the structure of a value visible, with texts between quotes wherever they stand inside a value.
-/

namespace IssueQuery

namespace DateTime

/-- A length of time in its display form: days, seconds of the day and microseconds, each only if
it is not zero. -/
def durationDisplay (micros : Int) : String :=
  let part (name : String) (n : Int) : List String :=
    if n = 0 then [] else [name ++ "=" ++ toString n]
  let parts := part "days" (micros / 86400000000) ++
    part "seconds" (micros % 86400000000 / 1000000) ++ part "microseconds" (micros % 1000000)
  "datetime.timedelta(" ++ (if parts.isEmpty then "0" else ", ".intercalate parts) ++ ")"

/-- An offset in its display form. -/
def offsetDisplay (o : Offset) : String :=
  if o.micros = 0 then "datetime.timezone.utc"
  else "datetime.timezone(" ++ durationDisplay o.micros ++ ")"

/-- A date and time in its display form inside another value. -/
def display (t : DateTime) : String :=
  let d := t.date
  let c := t.clock
  let fine := if c.micro ≠ 0 then [c.second, c.micro] else if c.second ≠ 0 then [c.second] else []
  let numbers := [d.year, d.month, d.day, c.hour, c.minute] ++ fine
  let offset :=
    match t.offset with
    | some o => ["tzinfo=" ++ offsetDisplay o]
    | none => []
  "datetime.datetime(" ++ ", ".intercalate (numbers.map toString ++ offset) ++ ")"

end DateTime

namespace Value

mutual

/-- The display form of a value inside another value. -/
def inner : Value → String
  | .null => "None"
  | .bool true => "True"
  | .bool false => "False"
  | .number n => n.text
  | .string s => Text.quoted s
  | .list items => "[" ++ ", ".intercalate (innerList items) ++ "]"
  | .object fields => "\x7b" ++ ", ".intercalate (innerFields fields) ++ "\x7d"
  | .dateTime t => t.display
  | .date d =>
    "datetime.date(" ++ ", ".intercalate ([d.year, d.month, d.day].map toString) ++ ")"

/-- The display forms of elements. -/
def innerList : List Value → List String
  | [] => []
  | x :: xs => inner x :: innerList xs

/-- The display forms of fields. -/
def innerFields : List (String × Value) → List String
  | [] => []
  | (name, x) :: xs => (Text.quoted name ++ ": " ++ inner x) :: innerFields xs

end

/-- The display form of a value: a text stands for itself, and a moment in time has its usual
written form. -/
def display : Value → String
  | .string s => s
  | .dateTime t => String.ofList (t.charsWith ' ')
  | .date d => d.isoText
  | v => v.inner

/-- The name of the type of a value in messages. -/
def typeName : Value → String
  | .null => "NoneType"
  | .bool _ => "bool"
  | .number (.int _) => "int"
  | .number (.double _) => "float"
  | .string _ => "str"
  | .list _ => "list"
  | .object _ => "dict"
  | .dateTime _ => "datetime.datetime"
  | .date _ => "datetime.date"

/-- The message about a value that should have fields. -/
def noFieldsMessage (v : Value) : String :=
  "'" ++ v.typeName ++ "' object has no attribute 'get'"

mutual

/-- The label of a value. -/
def label : Value → String
  | .null => "null"
  | .bool true => "true"
  | .bool false => "false"
  | .number n => n.plainText
  | .string s => s
  | .list items => ",".intercalate (labelItems items)
  | .object fields => inner (.object fields)
  | .dateTime t => t.isoText
  | .date d => d.isoText

/-- The labels of the elements of a list, where a missing element is left blank. -/
def labelItems : List Value → List String
  | [] => []
  | .null :: xs => "" :: labelItems xs
  | x :: xs => label x :: labelItems xs

end

/-- The lower case of the label of a value. -/
def lowerLabel (v : Value) : String :=
  Text.lower v.label

end Value

end IssueQuery
