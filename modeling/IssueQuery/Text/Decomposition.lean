import IssueQuery.Text.Decomposition.Table
import IssueQuery.Text.Packed

/-!
# Decomposition

The compatibility decomposition of Unicode: every character is replaced by its parts, and then the
marks that follow a base letter are brought into their canonical order.
-/

namespace IssueQuery.Text.Decomposition

open Packed

def expansions : Index := .ofRows Table.expansions
def classes : Index := .ofRows Table.classes

/-- The combining class of a character; zero for a base letter. -/
def combiningClass (c : Char) : Nat :=
  if c.toNat < 0x300 then 0 else (classes.valueAt? c.toNat).getD 0

/-- The letters of the Hangul syllable with index `i`. -/
def hangul (i : Nat) : List Char :=
  let lead := Char.ofNat (0x1100 + i / 588)
  let vowel := Char.ofNat (0x1161 + i % 588 / 28)
  let tail := i % 28
  if tail = 0 then [lead, vowel] else [lead, vowel, Char.ofNat (0x11A7 + tail)]

/-- The full compatibility decomposition of one character. -/
def parts (c : Char) : List Char :=
  let n := c.toNat
  if n < 128 then [c]
  else if 0xAC00 ≤ n ∧ n ≤ 0xD7A3 then hangul (n - 0xAC00)
  else match expansions.find? n with
    | some ns => ns.map Char.ofNat
    | none => [c]

/-- Puts the mark `m` of class `k` into a run of marks, behind all of the same or a lower class. -/
def insertMark (k : Nat) (m : Char) : List (Nat × Char) → List (Nat × Char)
  | [] => [(k, m)]
  | (k', m') :: ms => if k < k' then (k, m) :: (k', m') :: ms else (k', m') :: insertMark k m ms

/-- Canonical order: each run of marks is sorted by combining class, keeping equal classes in
place.  `marks` is the run read so far. -/
def orderMarks (marks : List (Nat × Char)) : List Char → List Char
  | [] => marks.map (·.2)
  | c :: cs =>
    match combiningClass c with
    | 0 => marks.map (·.2) ++ c :: orderMarks [] cs
    | k + 1 => orderMarks (insertMark (k + 1) c marks) cs

/-- The compatibility decomposition of a text. -/
def decompose (cs : List Char) : List Char :=
  orderMarks [] (cs.flatMap parts)

end IssueQuery.Text.Decomposition
