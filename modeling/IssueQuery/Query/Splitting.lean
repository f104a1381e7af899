import IssueQuery.Query.Token

/-!
# Splitting outside quotes and brackets

Cuts a text at a separator wherever neither a quote nor a bracket is open.  The state is the one
that cuts a query into words.
-/

namespace IssueQuery.Scan

/-- Whether a separator `c` cuts the text in the state `s`; quotes and brackets never do. -/
def cutsAt (s : Scan) (separator c : Char) : Bool :=
  s.isTop && !s.opensQuote c && c ≠ '[' && c ≠ ']' && c = separator

/-- The parts of a text between the separators, in the state `s`.  Only the first `limit` cuts are
made if there is a limit. -/
def splitFrom (s : Scan) (separator : Char) (limit : Option Nat) : List Char → List (List Char)
  | [] => [[]]
  | c :: cs =>
    if s.cutsAt separator c && limit ≠ some 0 then
      [] :: splitFrom (s.step c) separator (limit.map (· - 1)) cs
    else
      match splitFrom (s.step c) separator limit cs with
      | [] => [[c]]
      | part :: parts => (c :: part) :: parts

/-- The parts of a text between the separators that stand outside quotes and brackets. -/
def split (separator : Char) (limit : Option Nat) (cs : List Char) : List (List Char) :=
  splitFrom start separator limit cs

/-- What stands before and behind the first separator outside quotes and brackets; the second part
is missing if there is none. -/
def partition (separator : Char) (cs : List Char) : List Char × Option (List Char) :=
  match split separator (some 1) cs with
  | [before, behind] => (before, some behind)
  | _ => (cs, none)

end IssueQuery.Scan
