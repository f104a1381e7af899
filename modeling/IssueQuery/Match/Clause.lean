import IssueQuery.Match.Wording
import IssueQuery.Query.Basic

/-!
# Matching clauses

The verdict of a clause on a record, and the records that a combination of clauses keeps.
-/

namespace IssueQuery

namespace Match

/-- The days before a due date in which it is upcoming. -/
def upcomingDays : Int := 7

/-- Whether a date is due within the coming days. -/
def isUpcoming (now due : Moment) : Except TimeError Bool :=
  if compareMoments now due = .gt then .ok false
  else do
    let limit ← TimeKeyword.reached (now.shift? (Moment.days upcomingDays))
    return compareMoments due limit ≠ .gt

/-- Whether the due date of a record is past or upcoming, as `word` asks; a closed record is never
past its due date. -/
def isDue (now : Moment) (record : Record) (actual : Value) (word : String) :
    Except TimeError Bool :=
  match (if actual.isTruthy then actual.toMoment? else none) with
  | none => .ok false
  | some due =>
    if word = "past" then
      .ok (compareMoments due now = .lt &&
        !(match record.get "is_closed" with
          | .bool b => b
          | _ => false))
    else if word = "upcoming" then isUpcoming now due
    else .ok false

/-- Whether a field has a value with a meaning of its own. -/
def special (now : Moment) (record : Record) (field word : String) : Except TimeError Bool :=
  let actual := record.resolve field
  if word = "null" then .ok actual.isNull
  else if field = "blocked" ∨ field = "closed" then .ok (actual.same (.bool (word = "true")))
  else if field = "due_date" then isDue now record actual word
  else .ok !actual.isNull

/-- The value with a meaning of its own for a field that an operand spells. -/
def specialWord? (field : String) : Value → Option String
  | .string s =>
    let word := Text.lower s
    if (Field.specialValuesOf field).contains word then some word else none
  | _ => none

/-- The relation of order that an operator asks for; one of those that ask for none is taken for the
last. -/
def orderRelation (operator : String) : Relation :=
  if operator = ">" then .greater
  else if operator = ">=" then .greaterEqual
  else if operator = "<" then .less
  else .lessEqual

/-- The verdict of an operator of order on a value.  That of an opposite is the verdict of the
operator that it is the opposite of, turned around. -/
def compareOrdering (now : Moment) (actual : Value) (operator : String) (operand : Value) :
    Except TimeError Bool :=
  if [">", ">=", "<", "<="].contains operator then
    ordered now (orderRelation operator) actual operand
  else do
    let asserted := (Operator.opposites.lookup operator).getD operator
    return !(← ordered now (orderRelation asserted) actual operand)

/-- The verdict of an operator on a field of a record.  An operand with a meaning of its own comes
before all others, and what is no operator rules nothing out. -/
def evaluate (now : Moment) (record : Record) (field operator : String) (operand : Value) :
    Except TimeError Bool :=
  match if operator = "=" ∨ operator = "!=" then specialWord? field operand else none with
  | some word => do
    let matched ← special now record field word
    return if operator = "=" then matched else !matched
  | none =>
    let actual := record.resolve field
    match operator with
    | "=" => equalsAny now operand (record.candidates field)
    | "!=" => do return !(← equalsAny now operand (record.candidates field))
    | "in" => .ok (oneOf record field operand)
    | "not_in" => .ok !(oneOf record field operand)
    | _ =>
      if Operator.orderings.contains operator then compareOrdering now actual operator operand
      else
        match operator with
        | "contains" => .ok (contains actual operand)
        | "not_contains" => .ok !(contains actual operand)
        | "startswith" => .ok (startsWith actual operand)
        | "not_startswith" => .ok !(startsWith actual operand)
        | "endswith" => .ok (endsWith actual operand)
        | "not_endswith" => .ok !(endsWith actual operand)
        | "~" => .ok (hasWords actual operand)
        | "!~" => .ok !(hasWords actual operand)
        | "between" => between now actual operand
        | "not_between" => do return !(← between now actual operand)
        | "exists" => .ok !actual.isNull
        | "null" => .ok actual.isNull
        | "empty" => .ok actual.isEmpty
        | "notempty" => .ok !actual.isEmpty
        | _ => .ok true

end Match

/-- The verdict of a clause on a record. -/
def FilterClause.verdict (c : FilterClause) (now : Moment) (record : Record) :
    Except TimeError Bool :=
  Match.evaluate now record c.field c.operator.spelling c.operand

/-- A clause whose operator is given by its spelling. -/
structure SpelledClause where
  field : String
  operator : String
  operand : Value := .null

/-- The verdict of a spelled clause; one with a spelling that is no operator rules nothing out. -/
def SpelledClause.verdict (c : SpelledClause) (now : Moment) (record : Record) :
    Except TimeError Bool :=
  Match.evaluate now record c.field c.operator c.operand

namespace Logic

/-- The verdict of several tests together.  Tests behind the one that settles it are not run. -/
def combine {α : Type} (logic : Logic) (test : α → Except TimeError Bool) :
    List α → Except TimeError Bool
  | [] => .ok (logic = .all)
  | a :: as => do
    if (← test a) = (logic = .any) then return logic = .any else combine logic test as

/-- The records that several clauses keep together; no clauses keep all. -/
def keep {α : Type} (logic : Logic) (verdict : α → Record → Except TimeError Bool)
    (clauses : List α) (records : List Record) : Except TimeError (List Record) :=
  if clauses.isEmpty then .ok records
  else keepEach records
where
  /-- The records that the clauses keep, in order. -/
  keepEach : List Record → Except TimeError (List Record)
    | [] => .ok []
    | r :: rs => do
      let kept ← logic.combine (verdict · r) clauses
      let rest ← keepEach rs
      return if kept then r :: rest else rest

end Logic

end IssueQuery
