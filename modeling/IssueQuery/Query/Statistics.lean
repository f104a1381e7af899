import IssueQuery.Dictionary
import IssueQuery.Query.Reading

/-!
# Statistics of queries

How much work a query asks for, which fields and operators it uses, and which of its values no
tracker knows by default.
-/

namespace IssueQuery

/-- What can be said about a query without running it. -/
structure Statistics where
  filterCount : Nat
  logic : Logic
  hasOrder : Bool
  hasLimit : Bool
  hasGroup : Bool
  complexity : Double
  /-- The fields in the order of their first use. -/
  fields : List String
  /-- The operators in the order of their first use, each with the number of its uses. -/
  operators : Dictionary String Nat
  warnings : List String
  exceedsMaximum : Bool

namespace Statistics

/-- The weights of the parts of a query. -/
inductive Weight where
  | filter
  | join
  | order
  | limit
  | group
  | textSearch
  | dateRange

/-- The size of a weight. -/
def Weight.size : Weight → Double
  | filter => .ofDecimal false 10 (-1)
  | join => .ofDecimal false 5 (-1)
  | order => .ofDecimal false 10 (-1)
  | limit => .ofDecimal false 2 (-1)
  | group => .ofDecimal false 20 (-1)
  | textSearch => .ofDecimal false 15 (-1)
  | dateRange => .ofDecimal false 12 (-1)

/-- The weight of a filter. -/
def weightOf (kind : EntityKind) (c : FilterClause) : Weight :=
  let operator := c.operator.spelling
  if Operator.textual.contains operator then .textSearch
  else if Field.type? kind c.field = some .date &&
      (Operator.orderings.contains operator || Operator.ranges.contains operator) then .dateRange
  else .filter

/-- The weight of what joins `n` filters. -/
def joinWeight (n : Nat) : Double :=
  Weight.join.size.scale (n - 1)

/-- Adds a weight if it applies. -/
def addIf (applies : Bool) (w : Weight) (sum : Double) : Double :=
  if applies then sum.add w.size else sum

/-- The complexity of a query to one place after the point, where its filters weigh `filters`. -/
def complexityOf (q : Query) (filters : Double) : Double :=
  let n := q.filters.length
  let joined := if 1 < n then filters.add (joinWeight n) else filters
  (addIf q.trailer.group.isSome .group
    (addIf q.trailer.limit.isSome .limit
      (addIf q.trailer.order.isSome .order joined))).roundToTenth

/-- The warning about a value that is not in a vocabulary. -/
def warning (field value : String) (known : List String) : String :=
  "Value '" ++ value ++ "' is not a known " ++ field ++ " value (" ++
    ", ".intercalate (Text.sorted known) ++ ")"

/-- The warning about an operand, if it is a text that is not in the vocabulary. -/
def warningOf? (field : String) (known : List String) : Value → Option String
  | .string s => if known.contains (Text.lower s) then none else some (warning field s known)
  | _ => none

/-- The warnings about the operands of a filter that asks for certain values of a field with a
known vocabulary. -/
def warningsOf (kind : EntityKind) (c : FilterClause) : List String :=
  let known := Field.knownValues kind c.field
  if known.isEmpty || !(["=", "!=", "in", "not_in"].contains c.operator.spelling) then []
  else (FilterClause.parts c.operand).filterMap (warningOf? c.field known)

/-- What a walk along the filters has noted down. -/
structure Tally where
  /-- The weights of the filters, added up in the order in which they are written. -/
  weight : Double := .finite 0
  fields : List String := []
  operators : Dictionary String Nat := []
  warnings : List String := []

/-- Notes a filter down. -/
def Tally.note (kind : EntityKind) (t : Tally) (c : FilterClause) : Tally where
  weight := t.weight.add (weightOf kind c).size
  fields := enlist t.fields c.field
  operators := t.operators.alter c.operator.spelling 0 (· + 1)
  warnings := t.warnings ++ warningsOf kind c

/-- The statistics of a query, where `maximum` is the greatest complexity that is welcome. -/
def ofQuery (q : Query) (maximum : Option Number) : Statistics :=
  let tally := q.filters.foldl (Tally.note q.kind) {}
  let complexity := complexityOf q tally.weight
  { filterCount := q.filters.length
    logic := q.logic
    hasOrder := q.trailer.order.isSome
    hasLimit := q.trailer.limit.isSome
    hasGroup := q.trailer.group.isSome
    complexity
    fields := tally.fields
    operators := tally.operators
    warnings := tally.warnings
    exceedsMaximum :=
      match maximum with
      | some m => Number.compare? (.double complexity) m == some .gt
      | none => false }

/-- Statistics as a value. -/
def toValue (s : Statistics) : Value :=
  .object [
    ("filter_count", .nat s.filterCount),
    ("logic", .string s.logic.keyword),
    ("has_order_by", .bool s.hasOrder),
    ("has_limit", .bool s.hasLimit),
    ("has_group_by", .bool s.hasGroup),
    ("complexity", .double s.complexity),
    ("fields", .list (s.fields.map .string)),
    ("operators", .object (s.operators.map fun (spelling, n) => (spelling, .nat n))),
    ("warnings", .list (s.warnings.map .string)),
    ("exceeds_max_complexity", .bool s.exceedsMaximum)]

end Statistics

end IssueQuery
