import IssueQuery.Query.Operator

/-!
# Syntax errors

What can be wrong with a query, and how it is reported: the cause, the part of the query that is at
fault, and the place of that part.
-/

namespace IssueQuery

/-- The clauses that may follow the filters. -/
inductive ClauseKind where
  | order
  | group
  | limit
  deriving DecidableEq, Inhabited

namespace ClauseKind

/-- The word that begins a clause. -/
def keyword : ClauseKind → String
  | order => "ORDER"
  | group => "GROUP"
  | limit => "LIMIT"

/-- The name of a clause. -/
def name : ClauseKind → String
  | order => "ORDER BY"
  | group => "GROUP BY"
  | limit => "LIMIT"

end ClauseKind

/-- What can be wrong with a query. -/
inductive SyntaxFault where
  | unsupportedKind (name : String)
  | emptyQuery
  | unterminatedString
  | unexpectedBracket
  | unclosedList
  | filterAfterClause
  | mixedLogic
  | logicAfterClause (word : String)
  | repeatedNot
  | strayJoiner (word : String)
  | danglingWord (word : String)
  | repeatedClause (clause : ClauseKind)
  | parentheses
  | unexpectedToken
  | expectedBy (keyword : String)
  | expectedField (clause : ClauseKind)
  | unknownClauseField (name : String) (clause : ClauseKind) (kind : EntityKind)
  | expectedLimit
  | badLimit
  | unknownField (name : String) (kind : EntityKind)
  | missingValue
  | missingOperand (operator : String)
  | unrecognizedOperator (operator : String)
  | valueNotTaken (operator : String)
  | listNotAccepted (operator : Operator)
  | badRange
  | misplacedWildcard
  | malformedString
  | partialQuotes
  | expectedList (operator : Operator)
  | emptyElement
  | nestedList
  | boundCount (count : Nat)
  | inapplicable (operator : Operator) (type : FieldType) (field : String)
  | expectedNumber (field : String)
  | expectedDate (field : String)
  | expectedBoolean (field : String)
  deriving DecidableEq

/-- How a fault is worded. -/
def SyntaxFault.message : SyntaxFault → String
  | unsupportedKind name =>
    "Unsupported entity type '" ++ name ++ "'. Use one of: issues, user_stories, tasks"
  | emptyQuery => "Query string cannot be empty"
  | unterminatedString => "Unterminated string literal"
  | unexpectedBracket => "Unexpected ']' without a matching '['"
  | unclosedList => "Unclosed list literal, expected ']'"
  | filterAfterClause => "Filter expressions must come before ORDER BY, GROUP BY and LIMIT"
  | mixedLogic => "Cannot mix AND and OR in one query; a query uses a single logic operator"
  | logicAfterClause word => "'" ++ word ++ "' cannot follow ORDER BY, GROUP BY or LIMIT"
  | repeatedNot => "NOT cannot be repeated"
  | strayJoiner word => "'" ++ word ++ "' must join two filter expressions"
  | danglingWord word => "'" ++ word ++ "' must be followed by a filter expression"
  | repeatedClause clause => clause.name ++ " may appear only once"
  | parentheses =>
    "Parenthesized grouping is not supported; use a single AND or OR across all filters"
  | unexpectedToken => "Unexpected token; filters must look like 'field:value'"
  | expectedBy keyword => "Expected BY after " ++ keyword
  | expectedField clause => clause.name ++ " requires a field name"
  | unknownClauseField name clause kind =>
    "Unknown field '" ++ name ++ "' in " ++ clause.name ++ " for " ++ kind.name
  | expectedLimit => "LIMIT requires a number"
  | badLimit => "LIMIT must be a positive integer"
  | unknownField name kind =>
    "Unknown field '" ++ name ++ "' for " ++ kind.name ++ ". Valid fields: " ++
      ", ".intercalate (Text.sorted ((Field.catalogue kind).map (·.1)))
  | missingValue => "Missing value after field"
  | missingOperand operator => "Missing value after operator '" ++ operator ++ "'"
  | unrecognizedOperator operator => "Unrecognized operator '" ++ operator ++ "'"
  | valueNotTaken operator => "Operator '" ++ operator ++ "' does not take a value"
  | listNotAccepted operator => "Operator '" ++ operator.spelling ++ "' does not accept a list"
  | badRange => "Range must look like 'a..b'"
  | misplacedWildcard => "Wildcards are only supported at the start or end of a value"
  | malformedString => "Malformed string literal"
  | partialQuotes => "Quotes must enclose the whole value"
  | expectedList operator =>
    "Operator '" ++ operator.spelling ++ "' expects a bracketed list like [a,b]"
  | emptyElement => "Empty element in list"
  | nestedList => "Nested lists are not supported"
  | boundCount count => "BETWEEN requires exactly two values, got " ++ toString count
  | inapplicable operator type field =>
    "Operator '" ++ operator.spelling ++ "' cannot be applied to " ++ type.name ++ " field '" ++
      field ++ "'"
  | expectedNumber field => "Field '" ++ field ++ "' expects a numeric value"
  | expectedDate field =>
    "Field '" ++ field ++
      "' expects a date (YYYY-MM-DD) or a time keyword such as today, this_week or 7d"
  | expectedBoolean field => "Field '" ++ field ++ "' expects true or false"

/-- A fault with the part of the query that shows it. -/
structure SyntaxError where
  fault : SyntaxFault
  /-- The part of the query that is at fault, if there is one. -/
  fragment : Option String := none
  /-- The number of characters before that part, if it stands in the query. -/
  position : Option Nat := none
  deriving DecidableEq

namespace SyntaxError

/-- The code that callers know errors in queries by. -/
def code : String := "TQ001"

/-- The cause of an error in words. -/
def detail (e : SyntaxError) : String :=
  e.fault.message

/-- The cause of an error in words, with the part at fault and its place. -/
def message (e : SyntaxError) : String :=
  match e.fragment, e.position with
  | none, _ => e.detail
  | some f, none => e.detail ++ " (near '" ++ f ++ "')"
  | some f, some p => e.detail ++ " (near '" ++ f ++ "' at position " ++ toString p ++ ")"

/-- The error that a part of a query at a position shows. -/
def near {α : Type} (fault : SyntaxFault) (fragment : String) (position : Nat) :
    Except SyntaxError α :=
  .error { fault, fragment := some fragment, position := some position }

end SyntaxError

end IssueQuery
