import IssueQuery.Text.Case.Table
import IssueQuery.Text.Packed

/-!
# Letter case

The full case mappings of Unicode: lower case, upper case, case folding and the exchange of cases.
All but one work character by character; the capital sigma is lowered to its final form at the end
of a word, which is the only place where the neighbours of a character matter.
-/

namespace IssueQuery.Text

open Packed

namespace Case

/-- How a character takes part in the rule for the capital sigma. -/
inductive Role where
  /-- A letter with case. -/
  | cased
  /-- A mark that the rule looks through. -/
  | ignorable
  /-- Anything else. -/
  | other
  deriving DecidableEq

def lowerRuns : Index := .ofRows Table.lowerRuns
def upperRuns : Index := .ofRows Table.upperRuns
def lowerExpansions : Index := .ofRows Table.lowerExpansions
def upperExpansions : Index := .ofRows Table.upperExpansions
def foldExceptions : Index := .ofRows Table.foldExceptions
def titlecase : Index := .ofRows Table.titlecase
def casedRanges : Index := .ofRows Table.cased
def ignorableRanges : Index := .ofRows Table.ignorable

/-- Whether `c` is one of the first 128 characters. -/
def isAscii (c : Char) : Bool :=
  c.toNat < 128

/-- The role of `c` in the rule for the capital sigma. -/
def role (c : Char) : Role :=
  if isAscii c then
    if c.isAlpha then .cased
    else if c = '\'' ∨ c = '.' ∨ c = ':' ∨ c = '^' ∨ c = '\x60' then .ignorable
    else .other
  else if casedRanges.covers c.toNat then .cased
  else if ignorableRanges.covers c.toNat then .ignorable
  else .other

/-- The characters that `runs` and `expansions` give for `c`, or `c` itself. -/
def image (runs expansions : Index) (c : Char) : List Char :=
  match runs.imageOf? c.toNat with
  | some n => [Char.ofNat n]
  | none =>
    match expansions.find? c.toNat with
    | some ns => ns.map Char.ofNat
    | none => [c]

/-- The lower case of a character outside the context of a word. -/
def lowerChar (c : Char) : List Char :=
  if isAscii c then [c.toLower] else image lowerRuns lowerExpansions c

/-- The upper case of a character. -/
def upperChar (c : Char) : List Char :=
  if isAscii c then [c.toUpper] else image upperRuns upperExpansions c

/-- The case folding of a character. -/
def foldChar (c : Char) : List Char :=
  if isAscii c then [c.toLower]
  else match foldExceptions.find? c.toNat with
    | some ns => ns.map Char.ofNat
    | none => lowerChar c

/-- Whether the first character of `cs` that the sigma rule does not look through is cased. -/
def casedNext : List Char → Bool
  | [] => false
  | c :: cs =>
    match role c with
    | .cased => true
    | .ignorable => casedNext cs
    | .other => false

/-- The value of `casedBefore` after `c`. -/
def casedAfter (casedBefore : Bool) (c : Char) : Bool :=
  match role c with
  | .cased => true
  | .ignorable => casedBefore
  | .other => false

/-- The lower case of `c`, where `casedBefore` says whether the last character before it that is
not looked through is cased and `rest` follows it. -/
def lowerIn (casedBefore : Bool) (c : Char) (rest : List Char) : List Char :=
  if c = 'Σ' then [if casedBefore && !casedNext rest then 'ς' else 'σ'] else lowerChar c

/-- The lower case of a text that follows a context described by `casedBefore`. -/
def lowerFrom (casedBefore : Bool) : List Char → List Char
  | [] => []
  | c :: cs => lowerIn casedBefore c cs ++ lowerFrom (casedAfter casedBefore c) cs

/-- The lower case of a text. -/
def lower (cs : List Char) : List Char :=
  lowerFrom false cs

/-- The upper case of a text. -/
def upper (cs : List Char) : List Char :=
  cs.flatMap upperChar

/-- The case folding of a text. -/
def fold (cs : List Char) : List Char :=
  cs.flatMap foldChar

/-- The opposite case of `c` in its context: capitals become small, small letters capital, and the
title-case letters stay. -/
def swapIn (casedBefore : Bool) (c : Char) (rest : List Char) : List Char :=
  if titlecase.covers c.toNat then [c]
  else
    let small := lowerIn casedBefore c rest
    if small = [c] then upperChar c else small

/-- The text with its cases exchanged, after a context described by `casedBefore`. -/
def swapFrom (casedBefore : Bool) : List Char → List Char
  | [] => []
  | c :: cs => swapIn casedBefore c cs ++ swapFrom (casedAfter casedBefore c) cs

/-- The text with its cases exchanged. -/
def swap (cs : List Char) : List Char :=
  swapFrom false cs

end Case

/-- The lower case of a text. -/
def lower (s : String) : String :=
  String.ofList (Case.lower s.toList)

/-- The upper case of a text. -/
def upper (s : String) : String :=
  String.ofList (Case.upper s.toList)

@[simp]
theorem toList_lower (s : String) : (lower s).toList = Case.lower s.toList := by
  simp [lower]

@[simp]
theorem toList_upper (s : String) : (upper s).toList = Case.upper s.toList := by
  simp [upper]

end IssueQuery.Text
