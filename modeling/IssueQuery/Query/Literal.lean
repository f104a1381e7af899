import IssueQuery.Query.Splitting
import IssueQuery.Value.Coercion

/-!
# Literals

Reading the operands of a filter: quoted texts, numbers, bare words, and bracketed lists of them.
-/

namespace IssueQuery.Literal

/-- The quote with which a text begins, if it begins with one. -/
def openingQuote? : List Char → Option Char
  | '"' :: _ => some '"'
  | '\'' :: _ => some '\''
  | _ => none

/-- The text between the first and the last character. -/
def inside (raw : List Char) : List Char :=
  (raw.drop 1).dropLast

/-- Reads a single literal at a position of the query. -/
def readScalar (raw : List Char) (position : Nat) : Except SyntaxError Value :=
  match openingQuote? raw with
  | some q =>
    if raw.length < 2 || raw.getLast? ≠ some q || (inside raw).contains q then
      SyntaxError.near .malformedString (String.ofList raw) position
    else .ok (.string (String.ofList (inside raw)))
  | none =>
    if raw.contains '"' then
      SyntaxError.near .partialQuotes (String.ofList raw) position
    else
      match Number.read? (String.ofList raw) with
      | some n => .ok (.number n)
      | none => .ok (.string (String.ofList raw))

/-- Reads the elements of a list, the first of which stands at `position`; `raw` and `start` are
the text and the position of the whole list. -/
def readElements (raw : List Char) (start : Nat) :
    Nat → List (List Char) → Except SyntaxError (List Value)
  | _, [] => .ok []
  | position, element :: elements => do
    let stripped := Text.trimChars element
    if stripped.isEmpty then
      SyntaxError.near .emptyElement (String.ofList raw) start
    else if stripped.contains '[' || stripped.contains ']' then
      SyntaxError.near .nestedList (String.ofList raw) start
    else
      let value ← readScalar stripped position
      let values ← readElements raw start (position + element.length + 1) elements
      return value :: values

/-- Reads the list operand of an operator; a range has exactly two bounds. -/
def readList (operator : Operator) (raw : List Char) (position : Nat) :
    Except SyntaxError (List Value) := do
  if raw.head? ≠ some '[' || raw.getLast? ≠ some ']' then
    SyntaxError.near (.expectedList operator) (String.ofList raw) position
  else
    let values ← readElements raw position (position + 1) (Scan.split ',' none (inside raw))
    if operator.relation = .between ∧ values.length ≠ 2 then
      SyntaxError.near (.boundCount values.length) (String.ofList raw) position
    else return values

end IssueQuery.Literal
