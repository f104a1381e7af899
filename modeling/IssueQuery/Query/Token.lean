import IssueQuery.Query.SyntaxError

/-!
# Tokens

A query is cut into words at its blanks, except where they stand between quotes or inside a
bracketed list.  The state that decides this is kept in a `Scan`, which the reading of operands
shares, so that both see the same quotes and brackets.
-/

namespace IssueQuery

/-- What is open at a place of a text. -/
structure Scan where
  /-- The character before the place, if there is one. -/
  previous : Option Char
  /-- The quote that is open. -/
  quote : Option Char
  /-- The number of brackets that are open. -/
  depth : Int
  deriving DecidableEq

namespace Scan

/-- The state at the beginning of a text. -/
def start : Scan := ⟨none, none, 0⟩

/-- Whether a quote may open behind a character: a single one only where a value starts, so that
an apostrophe inside a word stays one. -/
def admitsApostrophe : Option Char → Bool
  | none => true
  | some c => c = ':' || c = '[' || c = ',' || c = '*' || c = ' '

/-- Whether `c` opens a quoted text if none is open. -/
def opensQuote (s : Scan) (c : Char) : Bool :=
  c = '"' || (c = '\'' && admitsApostrophe s.previous)

/-- Whether neither a quote nor a bracket is open. -/
def isTop (s : Scan) : Bool :=
  s.quote.isNone && s.depth = 0

/-- The state behind `c`. -/
def step (s : Scan) (c : Char) : Scan :=
  match s.quote with
  | some q => { s with previous := some c, quote := if c = q then none else some q }
  | none =>
    if s.opensQuote c then { s with previous := some c, quote := some c }
    else if c = '[' then { s with previous := some c, depth := s.depth + 1 }
    else if c = ']' then { s with previous := some c, depth := s.depth - 1 }
    else { s with previous := some c }

end Scan

/-- The places from which on a quote and the outermost bracket are open. -/
structure Openings where
  quote : List Char
  bracket : List Char

namespace Openings

def none : Openings := ⟨[], []⟩

/-- The openings behind the first character of `rest`, in the state `s` before it. -/
def step (o : Openings) (s : Scan) (c : Char) (rest : List Char) : Openings :=
  if s.quote.isNone then
    if s.opensQuote c then { o with quote := c :: rest }
    else if c = '[' ∧ s.depth = 0 then { o with bracket := c :: rest }
    else o
  else o

end Openings

/-- The kinds of tokens. -/
inductive TokenKind where
  | fieldExpr
  | and
  | or
  | not
  | clause (kind : ClauseKind)
  | by
  | paren
  | word
  deriving DecidableEq, Inhabited

/-- A word of a query and the number of characters before it. -/
structure Token where
  kind : TokenKind
  text : String
  position : Nat
  deriving DecidableEq, Inhabited

/-- A fault at the beginning of the rest of a text. -/
structure LexicalFault where
  fault : SyntaxFault
  /-- The text from the fault on. -/
  rest : List Char

namespace Token

/-- Whether a word ends here although it opened something. -/
def checkClosed (s : Scan) (o : Openings) : Except LexicalFault Unit :=
  if s.quote.isSome then .error ⟨.unterminatedString, o.quote⟩
  else if s.depth ≠ 0 then .error ⟨.unclosedList, o.bracket⟩
  else .ok ()

/-- Whether `c` closes a bracket that is not open. -/
def closesNothing (s : Scan) (c : Char) : Bool :=
  s.quote.isNone && c = ']' && s.depth = 0

/-- The characters up to the end of the word whose state is `s`, and what follows the word. -/
def scanWord (s : Scan) (o : Openings) : List Char →
    Except LexicalFault (List Char × List Char)
  | [] => do
    checkClosed s o
    return ([], [])
  | c :: cs =>
    if s.isTop && Text.isBlank c then .ok ([], c :: cs)
    else if closesNothing s c then .error ⟨.unexpectedBracket, c :: cs⟩
    else do
      let (word, rest) ← scanWord (s.step c) (o.step s c cs) cs
      return (c :: word, rest)

theorem append_of_scanWord {s : Scan} {o : Openings} {cs word rest : List Char}
    (h : scanWord s o cs = .ok (word, rest)) : word ++ rest = cs := by
  induction cs generalizing s o word rest with
  | nil =>
    rw [scanWord] at h
    cases hc : checkClosed s o with
    | error e => simp [hc, bind, Except.bind] at h
    | ok u =>
      simp [hc, bind, Except.bind, pure, Except.pure] at h
      simp [h]
  | cons c cs ih =>
    rw [scanWord] at h
    split at h
    · cases h
      rfl
    · split at h
      · cases h
      · cases hw : scanWord (s.step c) (o.step s c cs) cs with
        | error e => simp [hw, bind, Except.bind] at h
        | ok p =>
          simp only [hw, bind, Except.bind, pure, Except.pure, Except.ok.injEq,
            Prod.mk.injEq] at h
          rw [← h.1, ← h.2, List.cons_append, ih hw]

/-- The word that begins with `c`, which is no blank, and what follows it. -/
def firstWord (c : Char) (cs : List Char) : Except LexicalFault (List Char × List Char) :=
  if closesNothing .start c then .error ⟨.unexpectedBracket, c :: cs⟩
  else do
    let (word, rest) ← scanWord (Scan.start.step c) (Openings.none.step .start c cs) cs
    return (c :: word, rest)

theorem length_of_firstWord {c : Char} {cs word rest : List Char}
    (h : firstWord c cs = .ok (word, rest)) : rest.length ≤ cs.length := by
  rw [firstWord] at h
  split at h
  · cases h
  · cases hw : scanWord (Scan.start.step c) (Openings.none.step .start c cs) cs with
    | error e => simp [hw, bind, Except.bind] at h
    | ok p =>
      simp only [hw, bind, Except.bind, pure, Except.pure, Except.ok.injEq,
        Prod.mk.injEq] at h
      have happend := append_of_scanWord hw
      rw [← h.2, ← happend, List.length_append]
      omega

/-- Whether a text can be the name of a field in front of a colon. -/
def isFieldName : List Char → Bool
  | [] => false
  | c :: cs => (c.isAlpha || c = '_') && cs.all fun d => d.isAlphanum || d = '_' || d = '.'

/-- The words with a meaning of their own. -/
def keywords : List (String × TokenKind) := [
  ("AND", .and),
  ("OR", .or),
  ("NOT", .not),
  ("ORDER", .clause .order),
  ("GROUP", .clause .group),
  ("LIMIT", .clause .limit),
  ("BY", .by)]

/-- The token of a word at a position.  A keyword is kept in capitals. -/
def classify (word : List Char) (position : Nat) : Token :=
  let text := String.ofList word
  if word.head? = some '(' || word.getLast? = some ')' then ⟨.paren, text, position⟩
  else if word.contains ':' && isFieldName (word.takeWhile (· ≠ ':')) then
    ⟨.fieldExpr, text, position⟩
  else
    match keywords.lookup (Text.upper text) with
    | some kind => ⟨kind, Text.upper text, position⟩
    | none => ⟨.word, text, position⟩

/-- The tokens of the rest `cs` of a query of `total` characters. -/
def scan (total : Nat) (cs : List Char) : Except LexicalFault (List Token) :=
  match cs with
  | [] => .ok []
  | c :: cs =>
    if Text.isBlank c then scan total cs
    else
      match h : firstWord c cs with
      | .error e => .error e
      | .ok (word, rest) => do
        have := length_of_firstWord h
        let tokens ← scan total rest
        return classify word (total - (cs.length + 1)) :: tokens
termination_by cs.length

/-- A lexical fault as an error of a query of `total` characters: a bracket that closes nothing is
shown alone, and all else with the rest of the query. -/
def toSyntaxError (total : Nat) (e : LexicalFault) : SyntaxError :=
  { fault := e.fault
    fragment := some (String.ofList
      (if e.fault = .unexpectedBracket then e.rest.take 1 else e.rest))
    position := some (total - e.rest.length) }

/-- The tokens of a query. -/
def ofQuery (query : String) : Except SyntaxError (List Token) :=
  let cs := query.toList
  (scan cs.length cs).mapError (toSyntaxError cs.length)

end Token

end IssueQuery
