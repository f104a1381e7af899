import IssueQuery.Text.Quoted
import IssueQuery.Value.Basic

/-!
# Writing JSON

Writes a value as a JSON text of ASCII characters.  Doubles are written so that they read back, and
dates and times in their exchange format.
-/

namespace IssueQuery.Json

/-- The numeric escape of a character; one beyond the first plane takes two, unless it stands in for
a lone surrogate. -/
def numericEscape (c : Char) : List Char :=
  let unit (n : Nat) := '\\' :: 'u' :: Text.Quoted.hex 4 n
  if c.toNat < 0x10000 then unit c.toNat
  else
    match Text.surrogate? c with
    | some n => unit n
    | none =>
      let n := c.toNat - 0x10000
      unit (0xD800 + n / 0x400) ++ unit (0xDC00 + n % 0x400)

/-- One character inside a string. -/
def escape (c : Char) : List Char :=
  if c = '"' ∨ c = '\\' then ['\\', c]
  else if c = '\n' then ['\\', 'n']
  else if c = '\r' then ['\\', 'r']
  else if c = '\t' then ['\\', 't']
  else if c = '\x08' then ['\\', 'b']
  else if c = '\x0c' then ['\\', 'f']
  else if 32 ≤ c.toNat ∧ c.toNat < 127 then [c]
  else numericEscape c

/-- A string between its quotes. -/
def writeString (s : String) : String :=
  String.ofList ('"' :: s.toList.flatMap escape ++ ['"'])

/-- A double; what is no number or infinite is written as a word. -/
def writeDouble : Double → String
  | .nan => "NaN"
  | .infinity false => "Infinity"
  | .infinity true => "-Infinity"
  | x => x.text

/-- What stands before a part at a depth, and before the closing sign of a list or object: a new
line and two blanks for each level, or nothing. -/
def lineBreak (indented : Bool) (depth : Nat) : String :=
  if indented then String.ofList ('\n' :: List.replicate (2 * depth) ' ') else ""

/-- The parts of a list or an object between its signs. -/
def enclose (indented : Bool) (depth : Nat) (opening closing : String) (parts : List String) :
    String :=
  if parts.isEmpty then opening ++ closing
  else
    let inner := lineBreak indented (depth + 1)
    let separator := if indented then "," ++ inner else ", "
    opening ++ inner ++ separator.intercalate parts ++ lineBreak indented depth ++ closing

mutual

/-- Writes a value that stands at a depth. -/
def writeAt (indented : Bool) (depth : Nat) : Value → String
  | .null => "null"
  | .bool true => "true"
  | .bool false => "false"
  | .number (.int n) => toString n
  | .number (.double x) => writeDouble x
  | .string s => writeString s
  | .list items => enclose indented depth "[" "]" (writeItems indented (depth + 1) items)
  | .object fields =>
    enclose indented depth "\x7b" "\x7d" (writeFields indented (depth + 1) fields)
  | .dateTime t => writeString t.isoText
  | .date d => writeString d.isoText

/-- Writes the elements of a list. -/
def writeItems (indented : Bool) (depth : Nat) : List Value → List String
  | [] => []
  | v :: vs => writeAt indented depth v :: writeItems indented depth vs

/-- Writes the fields of an object. -/
def writeFields (indented : Bool) (depth : Nat) : List (String × Value) → List String
  | [] => []
  | (name, v) :: fields =>
    (writeString name ++ ": " ++ writeAt indented depth v) :: writeFields indented depth fields

end

mutual

/-- Whether a value can be sent: it has no double that would be written as a word and no text that
cannot be encoded. -/
def isSendable : Value → Bool
  | .number (.double x) => x.toRat?.isSome
  | .string s => Text.isEncodable s
  | .list items => areSendable items
  | .object fields => fieldsAreSendable fields
  | _ => true

/-- Whether the elements of a list can be sent. -/
def areSendable : List Value → Bool
  | [] => true
  | v :: vs => isSendable v && areSendable vs

/-- Whether the fields of an object can be sent. -/
def fieldsAreSendable : List (String × Value) → Bool
  | [] => true
  | (name, v) :: fields => Text.isEncodable name && isSendable v && fieldsAreSendable fields

end

/-- Writes a value on one line. -/
def write (v : Value) : String :=
  writeAt false 0 v

/-- Writes a value with each part on a line of its own. -/
def writeIndented (v : Value) : String :=
  writeAt true 0 v

end IssueQuery.Json
