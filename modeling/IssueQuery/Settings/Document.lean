import IssueQuery.Json.Reader
import IssueQuery.Text.Blank

/-!
# Documents

The texts of settings files.  A document either has the structure of JSON or gives its fields line
by line, where the lines of a part are indented.  It tells numbers from texts in its own way: a
double is known by its point, and an exponent counts only if its sign is written.  What looks like a
number otherwise, and each word but the truth values and `null`, stands for itself as a text.
-/

namespace IssueQuery.Settings.Document

/-- Whether a written number is a double in a document. -/
def isWrittenDouble (token : List Char) : Bool :=
  token.contains '.' &&
    match token.dropWhile fun c => c ≠ 'e' ∧ c ≠ 'E' with
    | [] => true
    | _ :: exponent => exponent.head? = some '+' || exponent.head? = some '-'

/-- Reads a word or a number as a document means it. -/
def readPlain : Json.PlainReader := fun cs => do
  let (v, rest) ← Json.readPlain cs
  let token := cs.take (cs.length - rest.length)
  match v with
  | .number (.double _) =>
    if isWrittenDouble token then return (v, rest)
    else return (.string (String.ofList token), rest)
  | _ => return (v, rest)

/-- A line that is not blank: the number of blanks before it, and the text behind them. -/
structure Line where
  indent : Nat
  text : List Char

/-- The lines of a text without blank ones and comments. -/
def linesOf (s : String) : List Line :=
  (s.toList.splitOn '\n').filterMap fun cs =>
    let text := Text.trimChars cs
    if text.isEmpty || text.head? = some '#' then none
    else some ⟨(cs.takeWhile (· = ' ')).length, text⟩

/-- The words that are values without being those of JSON. -/
def words : List (String × Value) := [
  ("", .null), ("~", .null), ("Null", .null), ("NULL", .null),
  ("True", .bool true), ("TRUE", .bool true), ("yes", .bool true), ("Yes", .bool true),
  ("YES", .bool true), ("on", .bool true), ("On", .bool true), ("ON", .bool true),
  ("False", .bool false), ("FALSE", .bool false), ("no", .bool false), ("No", .bool false),
  ("NO", .bool false), ("off", .bool false), ("Off", .bool false), ("OFF", .bool false)]

/-- The value that is written on the rest of a line. -/
def scalarOf (cs : List Char) : Value :=
  let token := String.ofList cs
  match words.lookup token with
  | some v => v
  | none =>
    match Json.readWith readPlain token with
    | .ok v => v
    | .error _ =>
      match cs with
      | '\'' :: rest => .string (String.ofList (rest.takeWhile (· ≠ '\'')))
      | _ => .string token

/-- The name in front of the colon of a line, and the text behind it. -/
def splitField? (cs : List Char) : Option (String × List Char) :=
  match cs.dropWhile (· ≠ ':') with
  | ':' :: rest =>
    if rest.isEmpty || rest.head? = some ' ' then
      some (String.ofList (cs.takeWhile (· ≠ ':')), Text.trimChars rest)
    else none
  | _ => none

mutual

/-- Reads lines as a list, whose elements stand behind dashes, or as fields. -/
def readBlock : Nat → List Line → Option Value
  | 0, _ => none
  | fuel + 1, lines =>
    if lines.all (fun l => l.text.take 2 = ['-', ' ']) then
      some (.list (lines.map fun l => scalarOf (Text.trimChars (l.text.drop 1))))
    else (readFields fuel [] lines).map .object

/-- Reads lines as fields behind those in `read`.  The lines of a part follow the name of it. -/
def readFields : Nat → List (String × Value) → List Line → Option (List (String × Value))
  | 0, _, _ => none
  | _, read, [] => some read
  | fuel + 1, read, line :: lines => do
    let (name, text) ← splitField? line.text
    let part := lines.takeWhile (line.indent < ·.indent)
    let v ← if text.isEmpty && !part.isEmpty then readBlock fuel part else
      if part.isEmpty then some (scalarOf text) else none
    readFields fuel (Value.insertField name v read) (lines.drop part.length)

end

/-- Reads the lines of a document; one without lines says nothing. -/
def readLines? (lines : List Line) : Option Value :=
  if lines.isEmpty then some .null else readBlock (2 * lines.length + 1) lines

/-- Reads a document. -/
def read (s : String) : Except Json.ReadError Value :=
  match Json.readWith readPlain s with
  | .ok v => .ok v
  | .error e =>
    match readLines? (linesOf s) with
    | some v => .ok v
    | none => .error e

end IssueQuery.Settings.Document
