import IssueQuery.Number.Numeral
import IssueQuery.Text.Surrogate
import IssueQuery.Value.Basic

/-!
# Reading JSON

Reads a JSON text into a value, or tells what is wrong with it and where.  Integers are kept at any
size, and a number with a point or an exponent is a double.  `NaN` and `Infinity` are read as well,
and so are lone surrogates.  Of two values under one name the later one counts.
-/

namespace IssueQuery.Json

/-- What can be wrong with a text. -/
inductive Fault where
  | expectedValue
  | expectedName
  | expectedColon
  | expectedComma
  | unterminatedString
  | controlCharacter
  | badEscape
  | badUnicodeEscape
  | extraData
  | byteOrderMark
  deriving DecidableEq

/-- How a fault is worded. -/
def Fault.message : Fault → String
  | .expectedValue => "Expecting value"
  | .expectedName => "Expecting property name enclosed in double quotes"
  | .expectedColon => "Expecting ':' delimiter"
  | .expectedComma => "Expecting ',' delimiter"
  | .unterminatedString => "Unterminated string starting at"
  | .controlCharacter => "Invalid control character at"
  | .badEscape => "Invalid \\escape"
  | .badUnicodeEscape => "Invalid \\uXXXX escape"
  | .extraData => "Extra data"
  | .byteOrderMark => "Unexpected UTF-8 BOM (decode using utf-8-sig)"

/-- A fault and the number of characters from its place to the end of the text. -/
structure Failure where
  fault : Fault
  remaining : Nat
  deriving DecidableEq

/-- Fails at the beginning of `rest`. -/
def failAt {α : Type} (fault : Fault) (rest : List Char) : Except Failure α :=
  .error ⟨fault, rest.length⟩

def isSpace (c : Char) : Bool :=
  c = ' ' || c = '\t' || c = '\n' || c = '\r'

def skipSpace (cs : List Char) : List Char :=
  cs.dropWhile isSpace

/-- The value of a hexadecimal digit of either case. -/
def hexValue? (c : Char) : Option Nat :=
  if c.isDigit then some (c.toNat - '0'.toNat)
  else if 'a' ≤ c ∧ c ≤ 'f' then some (c.toNat - 'a'.toNat + 10)
  else if 'A' ≤ c ∧ c ≤ 'F' then some (c.toNat - 'A'.toNat + 10)
  else none

/-- The value of four hexadecimal digits. -/
def hex4? (cs : List Char) : Option Nat :=
  cs.foldl (fun v c => do return 16 * (← v) + (← hexValue? c)) (some 0)

/-- The character that an escape of one letter stands for. -/
def simpleEscape? : Char → Option Char
  | '"' => some '"'
  | '\\' => some '\\'
  | '/' => some '/'
  | 'b' => some '\x08'
  | 'f' => some '\x0c'
  | 'n' => some '\n'
  | 'r' => some '\r'
  | 't' => some '\t'
  | _ => none

/-- The character of a pair of surrogates. -/
def joinSurrogates (high low : Nat) : Char :=
  Char.ofNat (0x10000 + (high - 0xD800) * 0x400 + (low - 0xDC00))

/-- The low surrogate that is escaped at the beginning of `cs`; what is no escape is none. -/
def lowSurrogate? (cs : List Char) : Except Failure (Option Nat) :=
  match cs with
  | '\\' :: 'u' :: a :: b :: c :: d :: _ :: _ =>
    match hex4? [a, b, c, d] with
    | none => failAt .badUnicodeEscape (cs.drop 1)
    | some n => .ok (if 0xDC00 ≤ n ∧ n ≤ 0xDFFF then some n else none)
  | _ => .ok none

/-- Reads the characters of a string up to its closing quote.  `opening` is the text from the
opening quote on, `read` holds what has been read, latest first. -/
def readString (opening : List Char) :
    Nat → List Char → List Char → Except Failure (String × List Char)
  | 0, _, _ => failAt .unterminatedString opening
  | _ + 1, _, [] => failAt .unterminatedString opening
  | fuel + 1, read, c :: cs =>
    if c = '"' then .ok (String.ofList read.reverse, cs)
    else if c.toNat < 32 then failAt .controlCharacter (c :: cs)
    else if c ≠ '\\' then readString opening fuel (c :: read) cs
    else
      match cs with
      | [] => failAt .unterminatedString opening
      | 'u' :: rest =>
        match rest with
        | a :: b :: c :: d :: rest@(_ :: _) =>
          match hex4? [a, b, c, d] with
          | none => failAt .badUnicodeEscape cs
          | some n =>
            if 0xD800 ≤ n ∧ n ≤ 0xDBFF then do
              match ← lowSurrogate? rest with
              | some low => readString opening fuel (joinSurrogates n low :: read) (rest.drop 6)
              | none => readString opening fuel (Text.standIn n :: read) rest
            else if 0xDC00 ≤ n ∧ n ≤ 0xDFFF then
              readString opening fuel (Text.standIn n :: read) rest
            else readString opening fuel (Char.ofNat n :: read) rest
        | _ => failAt .badUnicodeEscape cs
      | e :: rest =>
        match simpleEscape? e with
        | some c => readString opening fuel (c :: read) rest
        | none => failAt .badEscape ('\\' :: cs)

/-- Reads a string whose opening quote has the text `cs` behind it. -/
def readStringAfterQuote (cs : List Char) : Except Failure (String × List Char) :=
  readString ('"' :: cs) (cs.length + 1) [] cs

/-- Takes ASCII digits off the front. -/
def takeAsciiDigits (cs : List Char) : List Char × List Char :=
  (cs.takeWhile Char.isDigit, cs.dropWhile Char.isDigit)

/-- Takes a fraction off the front, if a digit follows the point. -/
def takeFraction (cs : List Char) : Option (List Char) × List Char :=
  match cs with
  | '.' :: rest =>
    match takeAsciiDigits rest with
    | ([], _) => (none, cs)
    | (ds, rest) => (some ds, rest)
  | _ => (none, cs)

/-- Takes an exponent off the front, if it has a digit. -/
def takeExponent (cs : List Char) : Option (Bool × List Char) × List Char :=
  match cs with
  | c :: rest =>
    let (negative, rest) := Number.takeSign rest
    match c = 'e' || c = 'E', takeAsciiDigits rest with
    | true, (d :: ds, rest) => (some (negative, d :: ds), rest)
    | _, _ => (none, cs)
  | [] => (none, cs)

/-- Takes a number off the front: no zero stands before another digit. -/
def takeNumber? (cs : List Char) : Option (Number × List Char) :=
  let (negative, digits) :=
    match cs with
    | '-' :: rest => (true, rest)
    | _ => (false, cs)
  let (whole, rest) :=
    match digits with
    | '0' :: rest => (['0'], rest)
    | _ => takeAsciiDigits digits
  if whole.isEmpty then none
  else
    let (fraction, rest) := takeFraction rest
    let (exponent, rest) := takeExponent rest
    let numeral : Number.Numeral := { negative, whole, fraction, exponent }
    match fraction, exponent with
    | none, none => some (.int (Number.signed negative (Text.decimalValue whole)), rest)
    | _, _ => some (.double numeral.toDouble, rest)

/-- The words that are values. -/
def literals : List (List Char × Value) := [
  (['n', 'u', 'l', 'l'], .null),
  (['t', 'r', 'u', 'e'], .bool true),
  (['f', 'a', 'l', 's', 'e'], .bool false),
  (['N', 'a', 'N'], .double .nan),
  (['I', 'n', 'f', 'i', 'n', 'i', 't', 'y'], .double (.infinity false)),
  (['-', 'I', 'n', 'f', 'i', 'n', 'i', 't', 'y'], .double (.infinity true))]

/-- Reads what is neither a string nor a list nor an object at the front of a text. -/
abbrev PlainReader := List Char → Except Failure (Value × List Char)

/-- Takes a word or a number off the front. -/
def readPlain : PlainReader := fun cs =>
  match literals.find? fun l => l.1.isPrefixOf cs with
  | some (word, v) => .ok (v, cs.drop word.length)
  | none =>
    match takeNumber? cs with
    | some (n, rest) => .ok (.number n, rest)
    | none => failAt .expectedValue cs

mutual

/-- Reads a value at the front of `cs`.  The fuel bounds the number of nested and consecutive
parts, each of which takes up at least one character. -/
def readValue (plain : PlainReader) : Nat → List Char → Except Failure (Value × List Char)
  | 0, cs => failAt .expectedValue cs
  | fuel + 1, cs =>
    match cs with
    | '"' :: rest => do
      let (s, rest) ← readStringAfterQuote rest
      return (.string s, rest)
    | '[' :: rest =>
      match skipSpace rest with
      | ']' :: rest => .ok (.list [], rest)
      | rest => do
        let (items, rest) ← readItems plain fuel rest
        return (.list items, rest)
    | '\x7b' :: rest =>
      match skipSpace rest with
      | '\x7d' :: rest => .ok (.object [], rest)
      | rest => do
        let (fields, rest) ← readFields plain fuel [] rest
        return (.object fields, rest)
    | _ => plain cs

/-- Reads the elements of a list up to its closing bracket. -/
def readItems (plain : PlainReader) : Nat → List Char → Except Failure (List Value × List Char)
  | 0, cs => failAt .expectedValue cs
  | fuel + 1, cs => do
    let (v, rest) ← readValue plain fuel cs
    match skipSpace rest with
    | ']' :: rest => return ([v], rest)
    | ',' :: rest =>
      let (vs, rest) ← readItems plain fuel (skipSpace rest)
      return (v :: vs, rest)
    | rest => failAt .expectedComma rest

/-- Reads the fields of an object up to its closing brace, behind those in `read`. -/
def readFields (plain : PlainReader) :
    Nat → List (String × Value) → List Char → Except Failure (List (String × Value) × List Char)
  | 0, _, cs => failAt .expectedName cs
  | fuel + 1, read, cs =>
    match cs with
    | '"' :: rest => do
      let (name, rest) ← readStringAfterQuote rest
      match skipSpace rest with
      | ':' :: rest =>
        let (v, rest) ← readValue plain fuel (skipSpace rest)
        let read := Value.insertField name v read
        match skipSpace rest with
        | '\x7d' :: rest => return (read, rest)
        | ',' :: rest => readFields plain fuel read (skipSpace rest)
        | rest => failAt .expectedComma rest
      | rest => failAt .expectedColon rest
    | _ => failAt .expectedName cs

end

/-- Reads a text that holds one value and blanks around it. -/
def readChars (plain : PlainReader) (cs : List Char) : Except Failure Value :=
  match cs with
  | '\uFEFF' :: _ => failAt .byteOrderMark cs
  | _ => do
    let (v, rest) ← readValue plain (cs.length + 1) (skipSpace cs)
    let rest := skipSpace rest
    if rest.isEmpty then return v else failAt .extraData rest

/-- A fault at a position of a text. -/
structure ReadError where
  fault : Fault
  /-- The number of characters before the fault. -/
  position : Nat
  /-- The line of the fault, from one. -/
  line : Nat
  /-- The place of the fault in its line, from one. -/
  column : Nat
  deriving DecidableEq

/-- The fault, its line and column, and its position. -/
def ReadError.message (e : ReadError) : String :=
  e.fault.message ++ ": line " ++ toString e.line ++ " column " ++ toString e.column ++
    " (char " ++ toString e.position ++ ")"

/-- Finds the line and column of a failure. -/
def ReadError.ofFailure (cs : List Char) (f : Failure) : ReadError :=
  let before := cs.take (cs.length - f.remaining)
  { fault := f.fault
    position := before.length
    line := before.count '\n' + 1
    column := (before.reverse.takeWhile (· ≠ '\n')).length + 1 }

/-- Reads a text with the structure of JSON, in which words and numbers are read as told. -/
def readWith (plain : PlainReader) (s : String) : Except ReadError Value :=
  (readChars plain s.toList).mapError (ReadError.ofFailure s.toList)

/-- Reads a JSON text. -/
def read (s : String) : Except ReadError Value :=
  readWith readPlain s

end IssueQuery.Json
