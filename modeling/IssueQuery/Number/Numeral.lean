import IssueQuery.Number.Basic
import IssueQuery.Text.Blank
import IssueQuery.Text.Digit

/-!
# Numerals

Reading a text as a number: a sign, digits with or without a point, and an exponent, where the
digits may be of any script.  A numeral that is written without point and exponent is an integer
and is kept exactly, as long as it lies in the range of doubles.
-/

namespace IssueQuery.Number

open Text

/-- The parts of a written number. -/
structure Numeral where
  negative : Bool
  /-- The digits before the point. -/
  whole : List Char
  /-- The digits behind the point, if a point is written. -/
  fraction : Option (List Char)
  /-- The sign and the digits of the exponent, if one is written. -/
  exponent : Option (Bool × List Char)
  deriving DecidableEq

/-- Takes a sign off the front; `true` stands for a minus. -/
def takeSign : List Char → Bool × List Char
  | '-' :: cs => (true, cs)
  | '+' :: cs => (false, cs)
  | cs => (false, cs)

/-- Takes the digits off the front. -/
def takeDigits (cs : List Char) : List Char × List Char :=
  (cs.takeWhile isDecimal, cs.dropWhile isDecimal)

/-- Takes a point and the digits behind it off the front. -/
def takeFraction : List Char → Option (List Char) × List Char
  | '.' :: cs => (some (takeDigits cs).1, (takeDigits cs).2)
  | cs => (none, cs)

/-- Reads an exponent that has to take up the whole of `cs`. -/
def readExponent? : List Char → Option (Option (Bool × List Char))
  | [] => some none
  | c :: cs =>
    let (negative, digits) := takeSign cs
    if (c = 'e' ∨ c = 'E') ∧ !digits.isEmpty ∧ digits.all isDecimal then
      some (some (negative, digits))
    else none

/-- Reads the parts of a written number, which needs a digit before or behind the point. -/
def Numeral.read? (cs : List Char) : Option Numeral :=
  let (negative, cs) := takeSign cs
  let (whole, cs) := takeDigits cs
  let (fraction, cs) := takeFraction cs
  if whole.isEmpty && (fraction.getD []).isEmpty then none
  else (readExponent? cs).map fun exponent => { negative, whole, fraction, exponent }

/-- The integer `n`, negated if asked. -/
def signed (negative : Bool) (n : Nat) : Int :=
  if negative then -n else n

/-- The double nearest to a numeral. -/
def Numeral.toDouble (x : Numeral) : Double :=
  let digits := x.whole ++ x.fraction.getD []
  let exponent :=
    match x.exponent with
    | some (negative, ds) => signed negative (decimalValue ds)
    | none => 0
  .ofDecimal x.negative (decimalValue digits) (exponent - (x.fraction.getD []).length)

/-- The number that a numeral stands for. -/
def Numeral.toNumber (x : Numeral) : Number :=
  match x.fraction, x.exponent, x.toDouble.toInt? with
  | none, none, some _ => .int (signed x.negative (decimalValue x.whole))
  | _, _, _ => .double x.toDouble

/-- The number that a text stands for, blanks at its ends aside. -/
def read? (s : String) : Option Number :=
  (Numeral.read? (trimChars s.toList)).map Numeral.toNumber

end IssueQuery.Number
