import IssueQuery.Calendar.Keyword
import IssueQuery.Query.Literal

/-!
# Filters

A filter names a field, an operator and an operand.  Its written form `field:operator:operand` has
two shorthands, a range `a..b` and wildcards at the ends of a word, which stand for other
operators.  A filter is only accepted if its operator suits the type of the field and its operand
suits the operator.
-/

namespace IssueQuery

/-- A condition on one field. -/
structure FilterClause where
  field : String
  operator : Operator
  /-- What the field is compared with: nothing for operators without an operand, and a list for
  operators that take one. -/
  operand : Value := .null
  deriving Inhabited

namespace FilterClause

/-- The opposite condition. -/
def negate (c : FilterClause) : FilterClause :=
  { c with operator := c.operator.negate }

/-- An operator, the text of its operand if it has one, and the position of that text. -/
structure Split where
  operator : Operator
  raw : Option (List Char)
  position : Nat

/-- Splits off an operator that is written as a symbol, with or without a colon behind it. -/
def splitSymbol (symbol rest : List Char) (position : Nat) : Except SyntaxError Split :=
  match Operator.symbols.lookup (String.ofList symbol) with
  | none =>
    SyntaxError.near (.unrecognizedOperator (String.ofList symbol)) (String.ofList symbol) position
  | some operator =>
    let (raw, skipped) :=
      match rest with
      | ':' :: raw => (raw, symbol.length + 1)
      | _ => (rest, symbol.length)
    if raw.isEmpty then
      SyntaxError.near (.missingOperand (String.ofList symbol)) (String.ofList symbol) position
    else .ok ⟨operator, some raw, position + skipped⟩

/-- Whether a text looks like the name of an operator. -/
def isOperatorName (cs : List Char) : Bool :=
  !cs.isEmpty && cs.all fun c => c.isAlpha || c = '_'

/-- Splits off an operator that is written as a name.  Without one, everything is the operand of a
test for equality. -/
def splitName (rest : List Char) (position : Nat) : Except SyntaxError Split :=
  let (head, behind) := Scan.partition ':' rest
  let name := String.ofList head
  let operator? := Operator.names.lookup (Text.lower name)
  match behind, operator? with
  | some raw, some operator =>
    if operator.relation.isValueless then
      SyntaxError.near (.valueNotTaken name) (String.ofList rest) position
    else if raw.isEmpty then
      SyntaxError.near (.missingOperand name) name position
    else .ok ⟨operator, some raw, position + head.length + 1⟩
  | some _, none =>
    if isOperatorName head then SyntaxError.near (.unrecognizedOperator name) name position
    else .ok ⟨Relation.equal.holds, some rest, position⟩
  | none, some operator =>
    if operator.relation.isValueless then .ok ⟨operator, none, position⟩
    else .ok ⟨Relation.equal.holds, some rest, position⟩
  | none, none => .ok ⟨Relation.equal.holds, some rest, position⟩

/-- Splits the text behind `field:` into the operator and the text of the operand. -/
def splitOperator (rest : List Char) (position : Nat) : Except SyntaxError Split :=
  let symbol := rest.takeWhile Operator.isSymbolChar
  if rest.isEmpty then SyntaxError.near .missingValue "" position
  else if symbol.isEmpty then splitName rest position
  else splitSymbol symbol (rest.dropWhile Operator.isSymbolChar) position

/-- The text before and behind the first pair of points. -/
def splitRange? : List Char → Option (List Char × List Char)
  | [] => none
  | '.' :: '.' :: cs => some ([], cs)
  | c :: cs => (splitRange? cs).map fun (a, b) => (c :: a, b)

/-- Reads the two bounds of `a..b`. -/
def readRange (raw low high : List Char) (position : Nat) :
    Except SyntaxError (Operator × Value) := do
  if low.isEmpty || high.isEmpty then
    SyntaxError.near .badRange (String.ofList raw) position
  else
    let a ← Literal.readScalar low position
    let b ← Literal.readScalar high (position + low.length + 2)
    return (Relation.between.holds, .list [a, b])

/-- A text without the stars at its ends. -/
def stripStars (cs : List Char) : List Char :=
  ((cs.dropWhile (· = '*')).reverse.dropWhile (· = '*')).reverse

/-- Reads `*text*`, `text*`, `*text` or a star alone, which asks whether there is a value. -/
def readWildcard (field : String) (raw : List Char) (position : Nat) :
    Except SyntaxError (Operator × Value) := do
  if raw = ['*'] then
    if (Field.specialValuesOf field).contains "*" then
      return (Relation.equal.holds, .string "*")
    else return (Relation.exists.holds, .null)
  else
    let inner := stripStars raw
    if inner.isEmpty || inner.contains '*' then
      SyntaxError.near .misplacedWildcard (String.ofList raw) position
    else
      let text :=
        match ← Literal.readScalar inner position with
        | .string s => s
        | _ => String.ofList inner
      let relation : Relation :=
        match raw.head? == some '*', raw.getLast? == some '*' with
        | true, true => .contains
        | false, true => .startsWith
        | _, _ => .endsWith
      return (relation.holds, .string text)

/-- Reads the operand of an operator, with the shorthands of a test for equality. -/
def readOperand (field : String) (s : Split) : Except SyntaxError (Operator × Value) := do
  match s.raw with
  | none => return (s.operator, .null)
  | some raw =>
    if s.operator.relation.takesList then
      return (s.operator, .list (← Literal.readList s.operator raw s.position))
    else if raw.head? = some '[' then
      SyntaxError.near (.listNotAccepted s.operator) (String.ofList raw) s.position
    else if s.operator = Relation.equal.holds ∧ (Literal.openingQuote? raw).isNone then
      match splitRange? raw with
      | some (low, high) => readRange raw low high s.position
      | none =>
        if raw.contains '*' then readWildcard field raw s.position
        else return (s.operator, ← Literal.readScalar raw s.position)
    else return (s.operator, ← Literal.readScalar raw s.position)

/-- The single operands that an operand consists of. -/
def parts : Value → List Value
  | .list items => items
  | v => [v]

/-- Whether an operand is a time keyword. -/
def isTimeKeyword : Value → Bool
  | .string s => TimeKeyword.recognises s
  | _ => false

/-- Checks an operand against the type of the field.  A truth value is kept in lower case. -/
def checkOperand (field : String) (type : FieldType) (operator : Operator) (operand : Value)
    (token : Token) : Except SyntaxError Value :=
  let ranged := operator.relation.isRanged
  if type = .number ∧ ranged ∧ (parts operand).any (·.toNumber?.isNone) then
    SyntaxError.near (.expectedNumber field) token.text token.position
  else if type = .date ∧ ranged ∧
      (parts operand).any fun v => !isTimeKeyword v && v.toMoment?.isNone then
    SyntaxError.near (.expectedDate field) token.text token.position
  else if type = .boolean ∧ operator.relation = .equal then
    match operand with
    | .string s =>
      if Text.lower s = "true" ∨ Text.lower s = "false" then .ok (.string (Text.lower s))
      else SyntaxError.near (.expectedBoolean field) token.text token.position
    | _ => SyntaxError.near (.expectedBoolean field) token.text token.position
  else .ok operand

/-- The filter that a token of the form `field:operator:operand` stands for. -/
def ofToken (kind : EntityKind) (token : Token) : Except SyntaxError FilterClause := do
  let cs := token.text.toList
  let name := cs.takeWhile (· ≠ ':')
  let split ← splitOperator (cs.drop (name.length + 1)) (token.position + name.length + 1)
  let field := Field.canonical (String.ofList name)
  match Field.type? kind field with
  | none =>
    SyntaxError.near (.unknownField (String.ofList name) kind) (String.ofList name) token.position
  | some type =>
    let (operator, operand) ← readOperand field split
    if operator.relation.admits type then
      return { field, operator, operand := ← checkOperand field type operator operand token }
    else
      SyntaxError.near (.inapplicable operator type field) token.text token.position

end FilterClause

end IssueQuery
