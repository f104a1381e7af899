import IssueQuery.Number.Shortest

/-!
# Numbers

A number is an integer of any size or a double.  The two kinds are compared by the points of the
rational line that they stand for, without rounding either.
-/

namespace IssueQuery

/-- A number as records and queries hold it. -/
inductive Number where
  | int (n : Int)
  | double (x : Double)
  deriving DecidableEq, Inhabited

namespace Number

/-- A point of the rational line or one of its two ends. -/
inductive LinePoint where
  | bottom
  | rational (q : Rat)
  | top
  deriving DecidableEq

/-- Order along the line. -/
def LinePoint.compare : LinePoint → LinePoint → Ordering
  | .bottom, .bottom => .eq
  | .bottom, _ => .lt
  | _, .bottom => .gt
  | .top, .top => .eq
  | .top, _ => .gt
  | _, .top => .lt
  | .rational p, .rational q => if p < q then .lt else if q < p then .gt else .eq

/-- The point that a number stands for; a double that is no number has none. -/
def point? : Number → Option LinePoint
  | .int n => some (.rational n)
  | .double .nan => none
  | .double (.infinity true) => some .bottom
  | .double (.infinity false) => some .top
  | .double .negativeZero => some (.rational 0)
  | .double (.finite q) => some (.rational q)

/-- Order of two numbers; nothing is comparable with what is no number. -/
def compare? (a b : Number) : Option Ordering :=
  match a.point?, b.point? with
  | some p, some q => some (p.compare q)
  | _, _ => none

/-- Whether two numbers stand for the same point. -/
def same (a b : Number) : Bool :=
  compare? a b == some .eq

/-- Whether a number is greater than zero. -/
def isPositive (n : Number) : Bool :=
  compare? (.int 0) n == some .lt

/-- The text of a number. -/
def text : Number → String
  | .int n => toString n
  | .double x => x.text

/-- The text of a number in which a double that stands for an integer is written as one. -/
def plainText : Number → String
  | .int n => toString n
  | .double x =>
    match x.toInt? with
    | some n => toString n
    | none => x.text

end Number

end IssueQuery
