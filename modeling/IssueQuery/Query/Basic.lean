import IssueQuery.Query.Filter

/-!
# Queries

A query is a flat list of filters under one logic, followed by an order, a limit and a grouping,
each of which may be missing.
-/

namespace IssueQuery

/-- How filters are combined. -/
inductive Logic where
  | all
  | any
  deriving DecidableEq, Inhabited

namespace Logic

/-- The word that joins filters. -/
def keyword : Logic → String
  | all => "AND"
  | any => "OR"

end Logic

/-- The direction of an order. -/
inductive Direction where
  | ascending
  | descending
  deriving DecidableEq, Inhabited

namespace Direction

/-- The word for a direction. -/
def keyword : Direction → String
  | ascending => "ASC"
  | descending => "DESC"

/-- The direction that a word asks for, letter case aside. -/
def ofWord? (s : String) : Option Direction :=
  [("ASC", ascending), ("DESC", descending)].lookup (Text.upper s)

end Direction

/-- The field that records are sorted by. -/
structure SortOrder where
  field : String
  direction : Direction := .ascending
  deriving DecidableEq, Inhabited

/-- The clauses that follow the filters. -/
structure Trailer where
  order : Option SortOrder := none
  limit : Option Nat := none
  group : Option String := none
  deriving DecidableEq, Inhabited

/-- Whether a clause is there. -/
def Trailer.has (t : Trailer) : ClauseKind → Bool
  | .order => t.order.isSome
  | .group => t.group.isSome
  | .limit => t.limit.isSome

/-- A query that has been read. -/
structure Query where
  kind : EntityKind
  /-- The conditions in the order in which they are written. -/
  filters : List FilterClause
  logic : Logic
  trailer : Trailer
  /-- The query as it is written. -/
  text : String
  deriving Inhabited

namespace Query

/-- A filter as a value. -/
def filterValue (c : FilterClause) : Value :=
  .object [
    ("field", .string c.field),
    ("operator", .string c.operator.spelling),
    ("value", c.operand)]

/-- A sort order as a value. -/
def orderValue (o : SortOrder) : Value :=
  .object [("field", .string o.field), ("direction", .string o.direction.keyword)]

/-- The value that `f` gives for what is there, or nothing. -/
def optional {α : Type} (f : α → Value) : Option α → Value
  | some a => f a
  | none => .null

/-- A query as a value. -/
def toValue (q : Query) : Value :=
  .object [
    ("entity_type", .string q.kind.name),
    ("filters", .list (q.filters.map filterValue)),
    ("logic", .string q.logic.keyword),
    ("order_by", optional orderValue q.trailer.order),
    ("limit", optional Value.nat q.trailer.limit),
    ("group_by", Value.ofString? q.trailer.group),
    ("text", .string q.text)]

end Query

end IssueQuery
