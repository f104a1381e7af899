import IssueQuery.Query.Basic

/-!
# Reading queries

A query is read in two parts.  The filters come first: each may have `NOT` before it, and between
two of them stands `AND`, `OR` or nothing, which means `AND`.  The clauses for order, grouping and
limit follow in any sequence, each at most once.
-/

namespace IssueQuery

namespace Query

/-- What has been read of the filters. -/
structure FilterState where
  /-- The filters read so far, latest first. -/
  filters : List FilterClause := []
  /-- The logic that the joiners so far agree on. -/
  logic : Option Logic := none
  /-- The joiner that waits for its right side. -/
  joiner : Option Token := none
  /-- The `NOT` that waits for its filter. -/
  negation : Option Token := none

/-- The logic that a token between two filters asks for. -/
def joinerLogic : Option Token → Logic
  | some ⟨.or, _, _⟩ => .any
  | _ => .all

/-- The logic of the query after a filter, which has to agree with the joiner before it unless it
is the first filter. -/
def agreedLogic (s : FilterState) (token : Token) : Except SyntaxError (Option Logic) :=
  if s.filters.isEmpty then .ok s.logic
  else
    let joined := joinerLogic s.joiner
    match s.logic with
    | none => .ok (some joined)
    | some logic =>
      if logic = joined then .ok (some joined)
      else
        let shown := s.joiner.getD token
        SyntaxError.near .mixedLogic shown.text shown.position

/-- The state after a filter. -/
def FilterState.addFilter (s : FilterState) (kind : EntityKind) (token : Token) :
    Except SyntaxError FilterState := do
  let logic ← agreedLogic s token
  let clause ← FilterClause.ofToken kind token
  return {
    filters := (if s.negation.isSome then clause.negate else clause) :: s.filters
    logic }

/-- The state after `NOT`. -/
def FilterState.addNegation (s : FilterState) (token : Token) :
    Except SyntaxError FilterState :=
  if s.negation.isSome then SyntaxError.near .repeatedNot token.text token.position
  else .ok { s with negation := some token }

/-- The state after `AND` or `OR`. -/
def FilterState.addJoiner (s : FilterState) (token : Token) : Except SyntaxError FilterState :=
  if s.filters.isEmpty || s.joiner.isSome || s.negation.isSome then
    SyntaxError.near (.strayJoiner token.text) token.text token.position
  else .ok { s with joiner := some token }

/-- Checks that no joiner and no `NOT` waits for a filter. -/
def FilterState.checkDone (s : FilterState) : Except SyntaxError Unit :=
  match s.joiner.or s.negation with
  | some token => SyntaxError.near (.danglingWord token.text) token.text token.position
  | none => .ok ()

/-- The error that a token shows which belongs to no filter and to no clause. -/
def strayToken {α : Type} (token : Token) : Except SyntaxError α :=
  if token.kind = .paren then SyntaxError.near .parentheses token.text token.position
  else SyntaxError.near .unexpectedToken token.text token.position

/-- Reads the filters up to the first clause, which is left in the second result. -/
def readFilters (kind : EntityKind) (s : FilterState) : List Token →
    Except SyntaxError (FilterState × List Token)
  | [] => do
    s.checkDone
    return (s, [])
  | token :: tokens =>
    match token.kind with
    | .fieldExpr => do readFilters kind (← s.addFilter kind token) tokens
    | .not => do readFilters kind (← s.addNegation token) tokens
    | .and | .or => do readFilters kind (← s.addJoiner token) tokens
    | .clause _ => do
      s.checkDone
      return (s, token :: tokens)
    | _ => strayToken token

/-- Takes the word `BY` behind the keyword of a clause. -/
def readBy (keyword : Token) : List Token → Except SyntaxError (List Token)
  | ⟨.by, _, _⟩ :: tokens => .ok tokens
  | _ => SyntaxError.near (.expectedBy keyword.text) keyword.text keyword.position

/-- Takes the name of a field behind `ORDER BY` or `GROUP BY`. -/
def readField (kind : EntityKind) (clause : ClauseKind) : List Token →
    Except SyntaxError (String × List Token)
  | [] => .error { fault := .expectedField clause, fragment := some clause.name }
  | token :: tokens =>
    if token.kind = .word then
      let field := Field.canonical token.text
      if Field.isKnown kind field then .ok (field, tokens)
      else
        SyntaxError.near (.unknownClauseField token.text clause kind) token.text token.position
    else SyntaxError.near (.expectedField clause) token.text token.position

/-- Takes a direction off the front; without one, the order ascends. -/
def readDirection : List Token → Direction × List Token
  | token :: tokens =>
    match token.kind, Direction.ofWord? token.text with
    | .word, some direction => (direction, tokens)
    | _, _ => (.ascending, token :: tokens)
  | [] => (.ascending, [])

/-- The integer that a text writes with an optional sign and decimal digits. -/
def readInteger? (s : String) : Option Int :=
  let (negative, digits) := Number.takeSign s.toList
  if !digits.isEmpty && digits.all Text.isDecimal then
    some (Number.signed negative (Text.decimalValue digits))
  else none

/-- Takes the positive number behind `LIMIT`. -/
def readLimit (keyword : Token) : List Token → Except SyntaxError (Nat × List Token)
  | token :: tokens =>
    if token.kind = .word then
      match readInteger? token.text with
      | some (.ofNat (n + 1)) => .ok (n + 1, tokens)
      | _ => SyntaxError.near .badLimit token.text token.position
    else SyntaxError.near .expectedLimit keyword.text keyword.position
  | [] => SyntaxError.near .expectedLimit keyword.text keyword.position

/-- Reads one clause behind its keyword. -/
def readClause (kind : EntityKind) (t : Trailer) (clause : ClauseKind) (keyword : Token)
    (tokens : List Token) : Except SyntaxError (Trailer × List Token) := do
  if t.has clause then
    SyntaxError.near (.repeatedClause clause) keyword.text keyword.position
  else
    match clause with
    | .order =>
      let (field, rest) ← readField kind .order (← readBy keyword tokens)
      let (direction, rest) := readDirection rest
      return ({ t with order := some { field, direction } }, rest)
    | .group =>
      let (field, rest) ← readField kind .group (← readBy keyword tokens)
      return ({ t with group := some field }, rest)
    | .limit =>
      let (n, rest) ← readLimit keyword tokens
      return ({ t with limit := some n }, rest)

theorem length_of_readBy {keyword : Token} {tokens rest : List Token}
    (h : readBy keyword tokens = .ok rest) : rest.length ≤ tokens.length := by
  unfold readBy at h
  split at h
  · cases h
    simp
  · cases h

theorem length_of_readField {kind : EntityKind} {clause : ClauseKind} {tokens rest : List Token}
    {field : String} (h : readField kind clause tokens = .ok (field, rest)) :
    rest.length ≤ tokens.length := by
  unfold readField at h
  split at h
  · cases h
  · split at h
    · dsimp only at h
      split at h
      · cases h
        simp
      · cases h
    · cases h

theorem length_readDirection (tokens : List Token) :
    (readDirection tokens).2.length ≤ tokens.length := by
  unfold readDirection
  split
  · split <;> simp
  · simp

theorem length_of_readLimit {keyword : Token} {tokens rest : List Token} {n : Nat}
    (h : readLimit keyword tokens = .ok (n, rest)) : rest.length ≤ tokens.length := by
  unfold readLimit at h
  split at h
  · split at h
    · split at h
      · cases h
        simp
      · cases h
    · cases h
  · cases h

theorem length_of_readClause {kind : EntityKind} {t t' : Trailer} {clause : ClauseKind}
    {keyword : Token} {tokens rest : List Token}
    (h : readClause kind t clause keyword tokens = .ok (t', rest)) :
    rest.length ≤ tokens.length := by
  unfold readClause at h
  split at h
  · cases h
  · cases clause with
    | order =>
      cases hb : readBy keyword tokens with
      | error e => simp [hb, bind, Except.bind] at h
      | ok afterBy =>
        cases hf : readField kind .order afterBy with
        | error e => simp [hb, hf, bind, Except.bind] at h
        | ok p =>
          simp only [hb, hf, bind, Except.bind, pure, Except.pure, Except.ok.injEq,
            Prod.mk.injEq] at h
          have := length_of_readBy hb
          have := length_of_readField hf
          have := length_readDirection p.2
          rw [← h.2]
          omega
    | group =>
      cases hb : readBy keyword tokens with
      | error e => simp [hb, bind, Except.bind] at h
      | ok afterBy =>
        cases hf : readField kind .group afterBy with
        | error e => simp [hb, hf, bind, Except.bind] at h
        | ok p =>
          simp only [hb, hf, bind, Except.bind, pure, Except.pure, Except.ok.injEq,
            Prod.mk.injEq] at h
          have := length_of_readBy hb
          have := length_of_readField hf
          rw [← h.2]
          omega
    | limit =>
      cases hl : readLimit keyword tokens with
      | error e => simp [hl, bind, Except.bind] at h
      | ok p =>
        simp only [hl, bind, Except.bind, pure, Except.pure, Except.ok.injEq,
          Prod.mk.injEq] at h
        have := length_of_readLimit hl
        rw [← h.2]
        omega

/-- Reads the clauses behind the filters. -/
def readTrailer (kind : EntityKind) (t : Trailer) (tokens : List Token) :
    Except SyntaxError Trailer :=
  match tokens with
  | [] => .ok t
  | token :: tokens =>
    match token.kind with
    | .clause clause =>
      match h : readClause kind t clause token tokens with
      | .error e => .error e
      | .ok (t, rest) =>
        have := length_of_readClause h
        readTrailer kind t rest
    | .fieldExpr => SyntaxError.near .filterAfterClause token.text token.position
    | .and | .or | .not =>
      SyntaxError.near (.logicAfterClause token.text) token.text token.position
    | _ => strayToken token
termination_by tokens.length

/-- The query that a list of tokens stands for; `text` is the query as it is written. -/
def ofTokens (kind : EntityKind) (text : String) (tokens : List Token) :
    Except SyntaxError Query := do
  let (s, rest) ← readFilters kind {} tokens
  let trailer ← readTrailer kind {} rest
  return { kind, filters := s.filters.reverse, logic := s.logic.getD .all, trailer, text }

/-- Reads a query on records of a kind; a blank text is none. -/
def read (kind : EntityKind) (text : String) : Except SyntaxError Query := do
  if Text.isBlankText text then .error { fault := .emptyQuery }
  else ofTokens kind text (← Token.ofQuery text)

/-- The kind of records that a caller asks for by name. -/
def readKind (name : String) : Except SyntaxError EntityKind :=
  match EntityKind.ofSpelling? name with
  | some kind => .ok kind
  | none => .error { fault := .unsupportedKind name }

/-- Reads a query for a caller who gives the kind of records by name.  What is no text is refused
like a blank one. -/
def readNamed (name : String) (text? : Option String) : Except SyntaxError Query := do
  let kind ← readKind name
  match text? with
  | some text => read kind text
  | none => .error { fault := .emptyQuery }

end Query

end IssueQuery
