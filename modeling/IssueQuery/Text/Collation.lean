import IssueQuery.Text.Case
import IssueQuery.Text.Decomposition
import IssueQuery.Text.Order

/-!
# Collation

Texts are sorted by their letters first; accents break ties, and then the case of letters, small
ones before capitals.
-/

namespace IssueQuery.Text

/-- What a text is sorted by, from the weightiest part to the lightest. -/
structure CollationKey where
  /-- The folded letters without their marks. -/
  letters : List Char
  /-- The folded letters with their marks. -/
  accents : List Char
  /-- The text itself with its cases exchanged. -/
  cases : List Char
  deriving DecidableEq

/-- The sort key of a text. -/
def collationKey (s : String) : CollationKey :=
  let cs := s.toList
  let parts := Decomposition.decompose cs
  { letters := Case.fold (parts.filter (Decomposition.combiningClass · = 0))
    accents := Case.fold parts
    cases := Case.swap cs }

/-- Keys are compared part by part. -/
def CollationKey.compare (a b : CollationKey) : Ordering :=
  (compareChars a.letters b.letters).then <|
    (compareChars a.accents b.accents).then (compareChars a.cases b.cases)

end IssueQuery.Text
