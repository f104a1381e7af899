/-!
# Order of texts

Texts are ordered character by character, by the numbers of their characters.
-/

namespace IssueQuery.Text

/-- Order of two lists of characters by the numbers of their characters, a beginning before its
continuations. -/
def compareChars : List Char → List Char → Ordering
  | [], [] => .eq
  | [], _ :: _ => .lt
  | _ :: _, [] => .gt
  | a :: as, b :: bs => (compare a.toNat b.toNat).then (compareChars as bs)

/-- Texts in their order. -/
def sorted (texts : List String) : List String :=
  texts.mergeSort fun s t => compareChars s.toList t.toList != .gt

end IssueQuery.Text
