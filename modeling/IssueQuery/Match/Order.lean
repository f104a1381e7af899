import IssueQuery.Match.Equality
import IssueQuery.Query.Operator

/-!
# Order and ranges

Two values are compared as numbers if both are numbers, else as moments if both are moments, and
else by the characters of their labels.
-/

namespace IssueQuery.Match

/-- The moment that an operand stands for at the moment `now`. -/
def moment? (now : Moment) (v : Value) : Except TimeError (Option Moment) :=
  match keyword? v with
  | some k => do return some (← k.resolve now)
  | none => .ok v.toMoment?

/-- Order of moments along universal time. -/
def compareMoments (a b : Moment) : Ordering :=
  if a.instant < b.instant then .lt else if b.instant < a.instant then .gt else .eq

/-- Order of two values as numbers, if both are numbers. -/
def compareNumbers? (a b : Value) : Option Ordering :=
  match a.toNumber?, b.toNumber? with
  | some m, some n => Number.compare? m n
  | _, _ => none

/-- Order of a value and an operand. -/
def orderOf (now : Moment) (actual expected : Value) : Except TimeError Ordering :=
  match compareNumbers? actual expected with
  | some o => .ok o
  | none => do
    match actual.toMoment?, ← moment? now expected with
    | some a, some b => return compareMoments a b
    | _, _ => return Text.compareChars actual.label.toList expected.label.toList

/-- Whether an order is one that a relation asks for. -/
def satisfies (r : Relation) (o : Ordering) : Bool :=
  match r with
  | .greater => o = .gt
  | .greaterEqual => o ≠ .lt
  | .less => o = .lt
  | _ => o ≠ .gt

/-- Whether a value stands in a relation of order to an operand; nothing does. -/
def ordered (now : Moment) (r : Relation) (actual expected : Value) : Except TimeError Bool :=
  if actual.isNull then .ok false
  else do return satisfies r (← orderOf now actual expected)

/-- Whether a value lies between two bounds, all three being numbers, or all three moments. -/
def within (now : Moment) (actual low high : Value) : Except TimeError Bool :=
  match compareNumbers? actual low, compareNumbers? actual high with
  | some a, some b => .ok (a ≠ .lt && b ≠ .gt)
  | _, _ => do
    match actual.toMoment?, ← moment? now low, ← moment? now high with
    | some m, some a, some b => return compareMoments a m ≠ .gt && compareMoments m b ≠ .gt
    | _, _, _ => return false

/-- Whether a value lies in the range of a list of two bounds. -/
def between (now : Moment) (actual operand : Value) : Except TimeError Bool :=
  match operand with
  | .list [low, high] => within now actual low high
  | _ => .ok false

end IssueQuery.Match
