import IssueQuery.Number.Numeral
import IssueQuery.Value.Basic

/-!
# Lax types

How a value is read as a text or a number where no exact type is asked for.  Numbers may be written
as texts and truth values count as numbers, but a text has to be one.
-/

namespace IssueQuery.Settings

/-- Why a value does not fit a setting. -/
inductive Fault where
  | notText
  | notInteger
  /-- A number with a fraction stands for an integer. -/
  | notWhole
  /-- A number that is not finite stands for an integer. -/
  | notFinite
  | unreadableInteger
  | notNumber
  | unreadableNumber
  | notPositive
  | unknownLevel
  deriving DecidableEq

/-- How a fault is worded. -/
def Fault.message : Fault → String
  | .notText => "Input should be a valid string"
  | .notInteger => "Input should be a valid integer"
  | .notWhole => "Input should be a valid integer, got a number with a fractional part"
  | .notFinite => "Input should be a finite number"
  | .unreadableInteger =>
    "Input should be a valid integer, unable to parse string as an integer"
  | .notNumber => "Input should be a valid number"
  | .unreadableNumber =>
    "Input should be a valid number, unable to parse string as a number"
  | .notPositive => "Input should be greater than 0"
  | .unknownLevel => "Value error, Unknown log level"

namespace Lax

/-- Blanks that may stand around a numeral: all but the separators of fields and records. -/
def isPadding (c : Char) : Bool :=
  Text.isBlank c && !(28 ≤ c.toNat && c.toNat ≤ 31)

/-- The characters of a text without the padding at either end. -/
def unpadded (s : String) : List Char :=
  ((s.toList.dropWhile isPadding).reverse.dropWhile isPadding).reverse

/-- The characters without the underscores between them; there is one at a time. -/
def joinGroups? (cs : List Char) : Option (List Char) :=
  let groups := cs.splitOn '_'
  if groups.any List.isEmpty then none else some groups.flatten

/-- The value of a run of ASCII digits in groups. -/
def readDigits? (cs : List Char) : Option Nat :=
  match joinGroups? cs with
  | some ds => if ds.all Char.isDigit then some (Text.decimalValue ds) else none
  | none => none

/-- The integer that a text writes; zeros may follow it behind a point. -/
def readInteger? (s : String) : Option Int :=
  let (negative, cs) := Number.takeSign (unpadded s)
  if ((cs.dropWhile (· ≠ '.')).drop 1).all (· = '0') then
    (readDigits? (cs.takeWhile (· ≠ '.'))).map (Number.signed negative)
  else none

/-- The double that a word stands for. -/
def readWord? (cs : List Char) : Option Double :=
  let (negative, word) := Number.takeSign cs
  match String.ofList (word.map Char.toLower) with
  | "inf" | "infinity" => some (.infinity negative)
  | "nan" => some .nan
  | _ => none

/-- The double that is written with ASCII digits or by a word. -/
def readPlainDouble? (cs : List Char) : Option Double :=
  match readWord? cs with
  | some x => some x
  | none =>
    if cs.all fun c => c.toNat < 128 then
      (Number.Numeral.read? cs).map Number.Numeral.toDouble
    else none

/-- The double that a text writes. -/
def readDouble? (s : String) : Option Double :=
  match readPlainDouble? (unpadded s) with
  | some x => some x
  | none => (joinGroups? s.toList).bind readPlainDouble?

/-- A value as a text. -/
def text : Value → Except Fault String
  | .string s => .ok s
  | _ => .error .notText

/-- A double as an integer. -/
def wholeNumber (x : Double) : Except Fault Int :=
  match x.toRat?, x.toInt? with
  | none, _ => .error .notFinite
  | some _, none => .error .notWhole
  | some _, some n => .ok n

/-- A value as an integer. -/
def integer : Value → Except Fault Int
  | .bool b => .ok (if b then 1 else 0)
  | .number (.int n) => .ok n
  | .number (.double x) => wholeNumber x
  | .string s =>
    match readInteger? s with
    | some n => .ok n
    | none => .error .unreadableInteger
  | _ => .error .notInteger

/-- A value as a double. -/
def double : Value → Except Fault Double
  | .bool b => .ok (.finite (if b then 1 else 0))
  | .number (.int n) =>
    match Double.round n with
    | .infinity _ => .error .notNumber
    | x => .ok x
  | .number (.double x) => .ok x
  | .string s =>
    match readDouble? s with
    | some x => .ok x
    | none => .error .unreadableNumber
  | _ => .error .notNumber

end Lax

end IssueQuery.Settings
