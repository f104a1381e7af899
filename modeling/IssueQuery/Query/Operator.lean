import IssueQuery.Query.Field

/-!
# Operators

An operator is a relation between the value of a field and an operand, or the negation of one.
Negating an operator twice gives it back.
-/

namespace IssueQuery

/-- The relations that a filter can ask for. -/
inductive Relation where
  | equal
  | greater
  | greaterEqual
  | less
  | lessEqual
  | contains
  | startsWith
  | endsWith
  | fuzzy
  | oneOf
  | between
  | exists
  | empty
  deriving DecidableEq, Inhabited

/-- A relation or its negation. -/
structure Operator where
  relation : Relation
  negated : Bool
  deriving DecidableEq, Inhabited

namespace Relation

/-- The operator that asks for a relation. -/
def holds (r : Relation) : Operator := ⟨r, false⟩

/-- The operator that asks for the opposite of a relation. -/
def fails (r : Relation) : Operator := ⟨r, true⟩

@[simp]
theorem relation_holds (r : Relation) : r.holds.relation = r := rfl

@[simp]
theorem relation_fails (r : Relation) : r.fails.relation = r := rfl

/-- Relations of order. -/
def isOrdering : Relation → Bool
  | greater | greaterEqual | less | lessEqual => true
  | _ => false

/-- Relations between texts. -/
def isTextual : Relation → Bool
  | contains | startsWith | endsWith | fuzzy => true
  | _ => false

/-- Relations without an operand. -/
def isValueless : Relation → Bool
  | «exists» | empty => true
  | _ => false

/-- Relations with a list of operands. -/
def takesList : Relation → Bool
  | oneOf | between => true
  | _ => false

/-- Relations for which the order of values matters. -/
def isRanged (r : Relation) : Bool :=
  r.isOrdering || r = between

/-- Whether a relation makes sense for the values of a field. -/
def admits (r : Relation) (t : FieldType) : Bool :=
  if r.isOrdering then t = .number || t = .date || t = .string || t = .enum
  else if r.isTextual then t = .string || t = .enum || t = .array
  else if r = between then t = .number || t = .date
  else true

end Relation

namespace Operator

/-- The operator that holds exactly where `op` does not. -/
def negate (op : Operator) : Operator :=
  { op with negated := !op.negated }

@[simp]
theorem negate_negate (op : Operator) : op.negate.negate = op := by
  simp [negate]

@[simp]
theorem relation_negate (op : Operator) : op.negate.relation = op.relation := rfl

/-- The spelling of an operator in query specifications and messages. -/
def spelling : Operator → String
  | ⟨.equal, false⟩ => "="
  | ⟨.equal, true⟩ => "!="
  | ⟨.greater, false⟩ => ">"
  | ⟨.greater, true⟩ => "not_gt"
  | ⟨.greaterEqual, false⟩ => ">="
  | ⟨.greaterEqual, true⟩ => "not_gte"
  | ⟨.less, false⟩ => "<"
  | ⟨.less, true⟩ => "not_lt"
  | ⟨.lessEqual, false⟩ => "<="
  | ⟨.lessEqual, true⟩ => "not_lte"
  | ⟨.contains, false⟩ => "contains"
  | ⟨.contains, true⟩ => "not_contains"
  | ⟨.startsWith, false⟩ => "startswith"
  | ⟨.startsWith, true⟩ => "not_startswith"
  | ⟨.endsWith, false⟩ => "endswith"
  | ⟨.endsWith, true⟩ => "not_endswith"
  | ⟨.fuzzy, false⟩ => "~"
  | ⟨.fuzzy, true⟩ => "!~"
  | ⟨.oneOf, false⟩ => "in"
  | ⟨.oneOf, true⟩ => "not_in"
  | ⟨.between, false⟩ => "between"
  | ⟨.between, true⟩ => "not_between"
  | ⟨.exists, false⟩ => "exists"
  | ⟨.exists, true⟩ => "null"
  | ⟨.empty, false⟩ => "empty"
  | ⟨.empty, true⟩ => "notempty"

/-- All operators of the catalogue. -/
def all : List Operator :=
  [Relation.equal, .greater, .greaterEqual, .less, .lessEqual, .contains, .startsWith, .endsWith,
    .fuzzy, .oneOf, .between, .exists, .empty].flatMap fun r => [r.holds, r.fails]

/-- The operator with a given spelling in query specifications. -/
def ofSpelling? (s : String) : Option Operator :=
  all.find? (·.spelling = s)

/-! ## Operators by their spellings -/

/-- The opposite of each operator. -/
def opposites : List (String × String) := [
  ("=", "!="),
  ("!=", "="),
  ("in", "not_in"),
  ("not_in", "in"),
  ("exists", "null"),
  ("null", "exists"),
  ("empty", "notempty"),
  ("notempty", "empty"),
  ("contains", "not_contains"),
  ("not_contains", "contains"),
  ("startswith", "not_startswith"),
  ("not_startswith", "startswith"),
  ("endswith", "not_endswith"),
  ("not_endswith", "endswith"),
  ("~", "!~"),
  ("!~", "~"),
  ("between", "not_between"),
  ("not_between", "between"),
  (">", "not_gt"),
  ("not_gt", ">"),
  (">=", "not_gte"),
  ("not_gte", ">="),
  ("<", "not_lt"),
  ("not_lt", "<"),
  ("<=", "not_lte"),
  ("not_lte", "<=")]

/-- The operators without an operand. -/
def valueless : List String := ["exists", "null", "empty", "notempty"]

/-- The operators with a list of operands. -/
def listed : List String := ["in", "not_in", "between", "not_between"]

/-- The operators with a range of values. -/
def ranges : List String := ["between", "not_between"]

/-- The operators of order. -/
def orderings : List String :=
  [">", ">=", "<", "<=", "not_gt", "not_gte", "not_lt", "not_lte"]

/-- The operators between texts. -/
def textual : List String :=
  ["contains", "startswith", "endswith", "~", "not_contains", "not_startswith", "not_endswith",
    "!~"]

/-- The types of the fields that an operator may be applied to. -/
def fieldTypes (spelling : String) : List FieldType :=
  if orderings.contains spelling then [.number, .date, .string, .enum]
  else if textual.contains spelling then [.string, .enum, .array]
  else if ranges.contains spelling then [.number, .date]
  else [.string, .enum, .number, .date, .boolean, .array]

/-! ## Operators in queries -/

/-- The operators that queries write as symbols. -/
def symbols : List (String × Operator) := [
  ("=", Relation.equal.holds),
  ("!=", Relation.equal.fails),
  (">", Relation.greater.holds),
  (">=", Relation.greaterEqual.holds),
  ("<", Relation.less.holds),
  ("<=", Relation.lessEqual.holds),
  ("~", Relation.fuzzy.holds),
  ("!~", Relation.fuzzy.fails)]

/-- The characters that symbols consist of. -/
def isSymbolChar (c : Char) : Bool :=
  c = '<' || c = '>' || c = '=' || c = '!' || c = '~'

/-- The operators that queries write as names. -/
def names : List (String × Operator) := [
  ("contains", Relation.contains.holds),
  ("not_contains", Relation.contains.fails),
  ("startswith", Relation.startsWith.holds),
  ("starts_with", Relation.startsWith.holds),
  ("starts", Relation.startsWith.holds),
  ("not_startswith", Relation.startsWith.fails),
  ("endswith", Relation.endsWith.holds),
  ("ends_with", Relation.endsWith.holds),
  ("ends", Relation.endsWith.holds),
  ("not_endswith", Relation.endsWith.fails),
  ("fuzzy", Relation.fuzzy.holds),
  ("in", Relation.oneOf.holds),
  ("not_in", Relation.oneOf.fails),
  ("notin", Relation.oneOf.fails),
  ("between", Relation.between.holds),
  ("not_between", Relation.between.fails),
  ("exists", Relation.exists.holds),
  ("null", Relation.exists.fails),
  ("empty", Relation.empty.holds),
  ("is_empty", Relation.empty.holds),
  ("notempty", Relation.empty.fails),
  ("not_empty", Relation.empty.fails)]

end Operator

end IssueQuery
