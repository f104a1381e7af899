import IssueQuery.Proofs.Query.QuotedText

/-!
# Single quotes around operands

Single quotes read like double quotes wherever they open.  Behind a symbol they do not: there the
scanner takes the text between them for a part of the word, so that a blank ends the word, brackets
have to match, and the closing quote opens if it stands where a value may start.  This module says
which texts survive that, and that every other one makes the query faulty.
-/

namespace IssueQuery

open Outcome
open Literal (quoted)

namespace Scan

variable {s : Scan} {c : Char} {text : List Char}

/-! ## Texts without quotes -/

/-- The number of brackets that a text opens and does not close. -/
def openBrackets (cs : List Char) : Int :=
  cs.count '[' - cs.count ']'

theorem openBrackets_cons (c : Char) (cs : List Char) :
    openBrackets (c :: cs) = openBrackets [c] + openBrackets cs := by
  have happend : c :: cs = [c] ++ cs := rfl
  rw [happend, openBrackets, List.count_append, List.count_append, openBrackets, openBrackets]
  omega

theorem step_of_not_opensQuote (hs : s.quote = none) (hc : s.opensQuote c = false) :
    s.step c = ⟨some c, none, s.depth + openBrackets [c]⟩ := by
  by_cases hopen : c = '['
  · subst hopen
    simp [step, hs, hc, openBrackets]
  · by_cases hclose : c = ']'
    · subst hclose
      simp [step, hs, hc, openBrackets]
      omega
    · simp [step, hs, hc, openBrackets, hopen, hclose]

theorem opensQuote_eq_false (s : Scan) (hdouble : c ≠ '"') (hsingle : c ≠ '\'') :
    s.opensQuote c = false := by
  simp [opensQuote, hdouble, hsingle]

theorem run_of_no_quotes (hs : s.quote = none) (hdouble : '"' ∉ text) (hsingle : '\'' ∉ text) :
    s.run text = ⟨text.getLast?.or s.previous, none, s.depth + openBrackets text⟩ := by
  induction text generalizing s with
  | nil =>
      obtain ⟨previous, quote, depth⟩ := s
      obtain rfl : quote = none := hs
      simp [openBrackets]
  | cons c text ih =>
      obtain ⟨hc, htext⟩ := List.ne_and_not_mem_of_not_mem_cons hdouble
      obtain ⟨hc', htext'⟩ := List.ne_and_not_mem_of_not_mem_cons hsingle
      have hstep := step_of_not_opensQuote hs (opensQuote_eq_false s hc.symm hc'.symm)
      have hlast : (c :: text).getLast?.or s.previous = text.getLast?.or (some c) := by
        rw [List.getLast?_cons]
        cases text.getLast? <;> rfl
      rw [run_cons, hstep, ih rfl htext htext', hlast, openBrackets_cons c text]
      dsimp only
      rw [Int.add_assoc]

theorem stopsAt_eq_false_iff (hs : s.quote = none) :
    Token.stopsAt s c = false ↔ (s.depth = 0 → Text.isBlank c = false ∧ c ≠ ']') := by
  by_cases hdepth : s.depth = 0
  · simp [Token.stopsAt, Token.closesNothing, isTop, hs, hdepth]
  · simp [Token.stopsAt, Token.closesNothing, isTop, hs, hdepth]

/-- What holds at each place of `c :: cs` holds at the first place and at those behind it. -/
theorem forall_split_cons {cs : List Char} {holds : List Char → Char → Prop} :
    (∀ before d behind, c :: cs = before ++ d :: behind → holds before d) ↔
      holds [] c ∧ ∀ before d behind, cs = before ++ d :: behind → holds (c :: before) d := by
  constructor
  · intro h
    refine ⟨h [] c cs rfl, ?_⟩
    intro before d behind hcs
    exact h (c :: before) d behind (by rw [hcs]; rfl)
  · rintro ⟨hfirst, hrest⟩ before d behind hsplit
    cases before with
    | nil =>
        obtain ⟨rfl, -⟩ := List.cons.inj hsplit
        exact hfirst
    | cons e before =>
        obtain ⟨rfl, hcs⟩ := List.cons.inj hsplit
        exact hrest before d behind hcs

/-- Without quotes, a text is one word if no blank and no closing bracket stands where no bracket is
open. -/
theorem avoids_stopsAt_iff (hs : s.quote = none) (hdouble : '"' ∉ text) (hsingle : '\'' ∉ text) :
    s.Avoids Token.stopsAt text ↔
      ∀ before c behind, text = before ++ c :: behind →
        s.depth + openBrackets before = 0 → Text.isBlank c = false ∧ c ≠ ']' := by
  induction text generalizing s with
  | nil => simp [Avoids]
  | cons c text ih =>
      obtain ⟨hc, htext⟩ := List.ne_and_not_mem_of_not_mem_cons hdouble
      obtain ⟨hc', htext'⟩ := List.ne_and_not_mem_of_not_mem_cons hsingle
      have hstep := step_of_not_opensQuote hs (opensQuote_eq_false s hc.symm hc'.symm)
      rw [Avoids, stopsAt_eq_false_iff hs, hstep, ih rfl htext htext', forall_split_cons]
      have hnothing : s.depth + openBrackets [] = s.depth := by
        simp [openBrackets]
      have hbehind : ∀ before, s.depth + openBrackets [c] + openBrackets before =
          s.depth + openBrackets (c :: before) := by
        intro before
        rw [openBrackets_cons c before, Int.add_assoc]
      simp only [hnothing, hbehind]

/-! ## Texts that stay together -/

/-- A text that stays one word if a single quote that does not open is put at either end: where no
bracket is open it has neither a blank nor a closing bracket, its brackets match, and no value may
start behind it. -/
structure StaysTogether (text : List Char) : Prop where
  outside : ∀ before c behind, text = before ++ c :: behind → openBrackets before = 0 →
    Text.isBlank c = false ∧ c ≠ ']'
  closed : openBrackets text = 0
  last : ∀ c, text.getLast? = some c → admitsApostrophe (some c) = false

/-- The state behind a single quote that does not open. -/
def behindApostrophe : Scan :=
  ⟨some '\'', none, 0⟩

theorem run_behindApostrophe (hdouble : '"' ∉ text) (hsingle : '\'' ∉ text) :
    behindApostrophe.run text = ⟨text.getLast?.or (some '\''), none, openBrackets text⟩ := by
  rw [run_of_no_quotes rfl hdouble hsingle]
  simp [behindApostrophe]

/-- The closing quote ends the word well if it does not open and all brackets are closed. -/
theorem isTop_step_apostrophe_iff (hs : s.quote = none) :
    (s.step '\'').isTop ↔ admitsApostrophe s.previous = false ∧ s.depth = 0 := by
  by_cases hopen : admitsApostrophe s.previous
  · have hquote : s.opensQuote '\'' := by
      simp [opensQuote, hopen]
    rw [step_of_opensQuote hs hquote]
    simp [isTop, hopen]
  · have hquote : s.opensQuote '\'' = false := by
      simpa [opensQuote] using hopen
    rw [step_of_not_opensQuote hs hquote]
    simp [isTop, openBrackets, hopen]

/-- The texts that stay together are those that the scanner takes into one word with the quote
behind them. -/
theorem staysTogether_iff (hdouble : '"' ∉ text) (hsingle : '\'' ∉ text) :
    StaysTogether text ↔
      behindApostrophe.Avoids Token.stopsAt (text ++ ['\'']) ∧
        (behindApostrophe.run (text ++ ['\''])).isTop := by
  have hrun := run_behindApostrophe hdouble hsingle
  have hquote : (behindApostrophe.run text).quote = none := by rw [hrun]
  have hcloses : (behindApostrophe.run text).Avoids Token.stopsAt ['\''] := by
    refine ⟨?_, avoids_nil _ _⟩
    rw [stopsAt_eq_false_iff hquote]
    exact fun _ => by decide
  have hdepth : ∀ before, behindApostrophe.depth + openBrackets before = openBrackets before := by
    intro before
    exact Int.zero_add _
  have hprevious : admitsApostrophe (behindApostrophe.run text).previous = false ↔
      ∀ c, text.getLast? = some c → admitsApostrophe (some c) = false := by
    rw [hrun]
    cases text.getLast? with
    | none => simp [admitsApostrophe]
    | some c => simp
  rw [avoids_append, avoids_stopsAt_iff rfl hdouble hsingle, run_append, run_cons, run_nil,
    isTop_step_apostrophe_iff hquote, hprevious]
  have hdepth' : (behindApostrophe.run text).depth = openBrackets text := by rw [hrun]
  simp only [hdepth, hdepth']
  constructor
  · intro h
    exact ⟨⟨h.outside, hcloses⟩, h.last, h.closed⟩
  · rintro ⟨⟨houtside, -⟩, hlast, hclosed⟩
    exact ⟨houtside, hclosed, hlast⟩

end Scan

/-! ## Quotes behind a symbol -/

namespace Token

open Scan (behindApostrophe)

variable {symbol : String} {op : Operator}

/-- Behind a symbol a single quote does not open. -/
theorem step_behind_symbol (h : (symbol, op) ∈ Operator.symbols) :
    (behindColon.run symbol.toList).opensQuote '\'' = false ∧
      (behindColon.run symbol.toList).step '\'' = behindApostrophe := by
  obtain ⟨hne, hchars⟩ := Operator.isSymbolChar_of_mem h
  have hplain := FilterClause.isPlain_of_writtenAs (.symbol h)
  have hstate := run_of_isPlain (s := behindColon) rfl hplain
  obtain ⟨c, hc⟩ : ∃ c, symbol.toList.getLast? = some c :=
    ⟨_, List.getLast?_eq_some_getLast hne⟩
  have hadmits : Scan.admitsApostrophe (some c) = false := by
    have hsymbolChar := hchars c (List.mem_of_getLast? hc)
    simp only [Operator.isSymbolChar, Bool.or_eq_true, decide_eq_true_eq] at hsymbolChar
    rcases hsymbolChar with (((rfl | rfl) | rfl) | rfl) | rfl
    all_goals decide
  have hopen : (behindColon.run symbol.toList).opensQuote '\'' = false := by
    rw [hstate, hc]
    simp [Scan.opensQuote, hadmits]
  refine ⟨hopen, ?_⟩
  rw [Scan.step_of_not_opensQuote (by rw [hstate]; rfl) hopen, hstate]
  rfl

/-- If a text does not stay together, the word ends in front of the closing quote. -/
theorem not_mem_of_scanWord {o : Openings} {text word rest : List Char} (hdouble : '"' ∉ text)
    (hsingle : '\'' ∉ text) (htext : ¬Scan.StaysTogether text)
    (h : scanWord behindApostrophe o (text ++ ['\'']) = .ok (word, rest)) : '\'' ∉ word := by
  have happend := append_of_scanWord h
  obtain ⟨havoids, htop, -⟩ := ends_of_scanWord h
  rcases List.eq_nil_or_concat rest with rfl | ⟨rest', d, rfl⟩
  · rw [List.append_nil] at happend
    subst happend
    exact absurd ((Scan.staysTogether_iff hdouble hsingle).mpr ⟨havoids, htop⟩) htext
  · rw [List.concat_eq_append, ← List.append_assoc] at happend
    obtain ⟨hword, -⟩ := List.append_inj' happend rfl
    intro hmem
    apply hsingle
    rw [← hword]
    exact List.mem_append_left rest' hmem

end Token

namespace FilterClause

open Scan (behindApostrophe)

variable {kind : EntityKind} {type : FieldType} {name symbol : String} {op : Operator}
  {text : List Char}

/-- A quote that begins an operand and is not found again makes the operand faulty. -/
theorem readScalar_of_lone_quote (h : '\'' ∉ text) (position : Nat) :
    ∃ e, Literal.readScalar ('\'' :: text) position = .error e := by
  have hlast : (decide (('\'' :: text).length < 2) ||
      decide (('\'' :: text).getLast? ≠ some '\'')) = true := by
    cases hend : text.getLast? with
    | none =>
        have hnil : text = [] := List.getLast?_eq_none_iff.mp hend
        simp [hnil]
    | some d =>
        have hd : d ≠ '\'' := by
          rintro rfl
          exact h (List.mem_of_getLast? hend)
        simp [List.getLast?_cons, hend, hd]
  refine ⟨⟨.malformedString, some (String.ofList ('\'' :: text)), some position⟩, ?_⟩
  rw [Literal.readScalar, Literal.openingQuote?]
  dsimp only
  rw [hlast, Bool.true_or, if_pos rfl]
  rfl

theorem ofToken_of_lone_quote (hname : Field.IsWritten kind type name)
    (hsymbol : (symbol, op) ∈ Operator.symbols) (h : '\'' ∉ text) {token : Token}
    (htoken : token.text.toList = name.toList ++ ':' :: (symbol.toList ++ '\'' :: text)) :
    ∃ e, ofToken kind token = .error e := by
  have hscalar : op.relation.takesList = false := by
    have hall : ∀ p ∈ Operator.symbols, p.2.relation.takesList = false := by decide
    exact hall _ hsymbol
  have hsplit (position : Nat) : splitOperator (symbol.toList ++ '\'' :: text) position =
      .ok ⟨op, some ('\'' :: text), position + symbol.toList.length⟩ := by
    rw [splitOperator_of_mem_symbols hsymbol text (by decide)]
    exact (splitSymbol_of_mem_symbols hsymbol (List.cons_ne_nil _ _)).2 (by simp)
  have hoperand (position : Nat) :
      ∃ e, readOperand (Field.canonical name) ⟨op, some ('\'' :: text), position⟩ = .error e := by
    obtain ⟨e, he⟩ := readScalar_of_lone_quote h position
    refine ⟨e, ?_⟩
    unfold readOperand
    simp [hscalar, Literal.openingQuote?, he, bind, Except.bind]
  obtain ⟨e, he⟩ := hoperand (token.position + name.toList.length + 1 + symbol.toList.length)
  refine ⟨e, ?_⟩
  rw [ofToken_of_isWritten hname htoken, hsplit, ok_bind, he]
  rfl

end FilterClause

namespace Query

open Scan (behindApostrophe StaysTogether)

variable {kind : EntityKind} {type : FieldType} {name spelling symbol : String} {op : Operator}
  {s : String}

/-- Behind a symbol, a text in single quotes that stays together without them is read as in double
quotes. -/
theorem readsAs_of_staysTogether (hname : Field.IsWritten kind type name)
    (htype : type = .string ∨ type = .enum) (hsymbol : (symbol, op) ∈ Operator.symbols)
    (hscalar : ¬op.relation.takesList) (hdouble : '"' ∉ s.toList) (hsingle : '\'' ∉ s.toList)
    (h : StaysTogether s.toList) :
    ReadsAs kind (filterText name symbol ("'" ++ s ++ "'"))
      ⟨Field.canonical name, op, .string s⟩ := by
  obtain ⟨havoids, htop⟩ := (Scan.staysTogether_iff hdouble hsingle).mp h
  obtain ⟨hopen, hstep⟩ := Token.step_behind_symbol hsymbol
  have hstop : Token.stopsAt (Token.behindColon.run symbol.toList) '\'' = false :=
    Token.stopsAt_of_not_isBlank _ (by decide) (by decide)
  have havoids' : (Token.behindColon.run symbol.toList).Avoids Token.stopsAt
      (quoted '\'' s.toList) := by
    refine ⟨hstop, ?_⟩
    rw [hstep]
    exact havoids
  have htop' : ((Token.behindColon.run symbol.toList).run (quoted '\'' s.toList)).isTop := by
    rw [quoted, Scan.run_cons, hstep]
    exact htop
  have hread := readsAs_quoted hname htype (.symbol hsymbol) hscalar (Or.inr rfl) hsingle
    (toList_inQuotes "'" s rfl) havoids' htop'
  rwa [String.ofList_toList] at hread

/-- The scanner goes on behind a symbol and a single quote as if nothing were quoted. -/
theorem exists_word_behind_symbol {tokens : List Token} (hname : Field.IsWritten kind type name)
    (hsymbol : (symbol, op) ∈ Operator.symbols)
    (h : Token.ofQuery (filterText name symbol ("'" ++ s ++ "'")) = .ok tokens) :
    ∃ o word rest tokens',
      Token.scanWord behindApostrophe o (s.toList ++ ['\'']) = .ok (word, rest) ∧
        tokens = Token.classify (name.toList ++ ':' :: (symbol.toList ++ '\'' :: word)) 0 ::
          tokens' := by
  obtain ⟨hfield, hcolon⟩ := Token.avoids_of_isFieldName hname.isName
  obtain ⟨-, hstep⟩ := Token.step_behind_symbol hsymbol
  have hplain := FilterClause.isPlain_of_writtenAs (.symbol hsymbol)
  -- What stands in front of the text is scanned without a stop, the quote included.
  have havoids : Scan.start.Avoids Token.stopsAt
      (name.toList ++ [':'] ++ (symbol.toList ++ ['\''])) := by
    refine Scan.avoids_append.mpr ⟨hfield, ?_⟩
    rw [hcolon]
    refine Scan.avoids_append.mpr ⟨Token.avoids_of_isPlain _ hplain, ?_, Scan.avoids_nil _ _⟩
    exact Token.stopsAt_of_not_isBlank _ (by decide) (by decide)
  have hrun : Scan.start.run (name.toList ++ [':'] ++ (symbol.toList ++ ['\''])) =
      behindApostrophe := by
    rw [Scan.run_append, hcolon, Scan.run_append, Scan.run_cons, hstep, Scan.run_nil]
  have hchars : (filterText name symbol ("'" ++ s ++ "'")).toList =
      name.toList ++ [':'] ++ (symbol.toList ++ ['\'']) ++ (s.toList ++ ['\'']) := by
    rw [toList_filterText]
    simp
  obtain ⟨o, word, rest, tokens', hscan, rfl⟩ :=
    Token.exists_word_of_ofQuery (by simp) hchars havoids h
  rw [hrun] at hscan
  refine ⟨o, word, rest, tokens', hscan, ?_⟩
  simp

/-- Behind a symbol, a text in single quotes that does not stay together makes the query faulty: the
first word ends before the closing quote, or something is still open behind it. -/
theorem exists_error_of_not_staysTogether (hname : Field.IsWritten kind type name)
    (hsymbol : (symbol, op) ∈ Operator.symbols) (hdouble : '"' ∉ s.toList)
    (hsingle : '\'' ∉ s.toList) (h : ¬StaysTogether s.toList) :
    ∃ e, read kind (filterText name symbol ("'" ++ s ++ "'")) = .error e := by
  cases htokens : Token.ofQuery (filterText name symbol ("'" ++ s ++ "'")) with
  | error e =>
      exact exists_error_of_ofQuery htokens
  | ok tokens =>
      obtain ⟨o, word, rest, tokens', hscan, rfl⟩ := exists_word_behind_symbol hname hsymbol htokens
      have hlone := Token.not_mem_of_scanWord hdouble hsingle h hscan
      apply exists_error_of_first htokens
      rw [Token.classify_of_isFieldName hname.isName]
      dsimp only
      split
      · exact Or.inl rfl
      · refine Or.inr ⟨rfl, ?_⟩
        exact FilterClause.ofToken_of_lone_quote hname hsymbol hlone (String.toList_ofList)

/-- In front of an operand stands a symbol or, behind a colon, a single quote opens. -/
theorem opensQuote_of_writtenAs (hop : op.WrittenAs spelling) :
    (spelling, op) ∈ Operator.symbols ∨
      (Token.behindColon.run spelling.toList).opensQuote '\'' := by
  have hstate := Token.run_of_isPlain (s := Token.behindColon) rfl
    (FilterClause.isPlain_of_writtenAs hop)
  have hcolon : spelling.toList.getLast?.or (some ':') = some ':' →
      (Token.behindColon.run spelling.toList).opensQuote '\'' := by
    intro hlast
    rw [hstate, Token.behindColon, hlast]
    decide
  cases hop with
  | bare => exact Or.inr (hcolon rfl)
  | symbol hmem => exact Or.inl hmem
  | symbolColon hmem => exact Or.inr (hcolon (by simp))
  | name hnamed => exact Or.inr (hcolon (by simp))

/-- A text in single quotes is read as in double quotes, except right behind a symbol: there the
single quotes do not open, and if the text does not stay together without them, the query is
faulty. -/
theorem single_quotes_read_as_double (kind : EntityKind) (type : FieldType)
    (name spelling s : String) (op : Operator) (hname : Field.IsWritten kind type name)
    (htype : type = .string ∨ type = .enum) (hop : op.WrittenAs spelling)
    (hscalar : ¬op.relation.takesList) (hdouble : '"' ∉ s.toList) (hsingle : '\'' ∉ s.toList) :
    ReadsAs kind (filterText name spelling ("\"" ++ s ++ "\""))
      ⟨Field.canonical name, op, .string s⟩ ∧
    ((spelling ∈ Operator.symbols.map (·.1) → StaysTogether s.toList) →
      ReadsAs kind (filterText name spelling ("'" ++ s ++ "'"))
        ⟨Field.canonical name, op, .string s⟩) ∧
    (spelling ∈ Operator.symbols.map (·.1) → ¬StaysTogether s.toList →
      ∃ e, read kind (filterText name spelling ("'" ++ s ++ "'")) = .error e) := by
  refine ⟨?_, ?_, ?_⟩
  · have hread := readsAs_of_opensQuote hname htype hop hscalar (Or.inl rfl) hdouble
      (toList_inQuotes "\"" s rfl) (Scan.opensQuote_double _)
    rwa [String.ofList_toList] at hread
  · intro htogether
    rcases opensQuote_of_writtenAs hop with hmem | hopen
    · exact readsAs_of_staysTogether hname htype hmem hscalar hdouble hsingle
        (htogether (List.mem_map_of_mem hmem))
    · have hread := readsAs_of_opensQuote hname htype hop hscalar (Or.inr rfl) hsingle
        (toList_inQuotes "'" s rfl) hopen
      rwa [String.ofList_toList] at hread
  · intro hspelling htogether
    obtain ⟨⟨symbol, op'⟩, hmem, hfst⟩ := List.mem_map.mp hspelling
    obtain rfl : symbol = spelling := hfst
    exact exists_error_of_not_staysTogether hname hmem hdouble hsingle htogether

theorem single_quotes_read_as_double_brackets :
    Field.IsWritten .issue .string "subject" ∧ Relation.equal.holds.WrittenAs "=" ∧
    StaysTogether "login[ or out ]s".toList ∧
    ReadsAs .issue (filterText "subject" "=" ("'" ++ "login[ or out ]s" ++ "'"))
      ⟨"subject", Relation.equal.holds, .string "login[ or out ]s"⟩ := by
  have htype : Field.type? .issue "subject" = some .string := by decide
  obtain ⟨hname, hcanonical⟩ := Field.isWritten_of_type? htype
  have hop : Relation.equal.holds.WrittenAs "=" := .symbol (by decide)
  have htogether : StaysTogether "login[ or out ]s".toList :=
    (Scan.staysTogether_iff (by decide) (by decide)).mpr (by decide)
  have hread := (single_quotes_read_as_double .issue .string "subject" "=" "login[ or out ]s" _
    hname (Or.inl rfl) hop (by decide) (by decide) (by decide)).2.1 fun _ => htogether
  rw [hcanonical] at hread
  exact ⟨hname, hop, htogether, hread⟩

/-- Behind a symbol, a blank ends a text in single quotes. -/
theorem single_quotes_end_at_blank :
    readNamed "issues" (some "subject:='login bug'") =
      .error ⟨.malformedString, some "'login", some 9⟩ ∧
    readNamed "issues" (some "subject:=\"login bug\"") =
      .ok (ofFilter .issue ⟨"subject", Relation.equal.holds, .string "login bug"⟩
        "subject:=\"login bug\"") := by
  have hkind : readKind "issues" = .ok .issue := by cbv
  constructor
  · have hchars : "subject:='login bug'".toList = ['s', 'u', 'b', 'j', 'e', 'c', 't', ':', '=',
        '\'', 'l', 'o', 'g', 'i', 'n', ' ', 'b', 'u', 'g', '\''] := rfl
    have htokens : Token.ofQuery "subject:='login bug'" =
        .ok [⟨.fieldExpr, "subject:='login", 0⟩, ⟨.word, "bug'", 16⟩] := by
      rw [Token.ofQuery_eq_ok_iff, hchars, Token.scan_cons_of_firstWord (by decide) rfl,
        Token.scan_cons_of_isBlank (by decide), Token.scan_cons_of_firstWord (by decide) rfl,
        Token.scan_nil]
      cbv
    rw [readNamed, hkind, ok_bind]
    dsimp only
    rw [read, if_neg (by decide), htokens]
    cbv
  · have htype : Field.type? .issue "subject" = some .string := by decide
    obtain ⟨hname, hcanonical⟩ := Field.isWritten_of_type? htype
    have hop : Relation.equal.holds.WrittenAs "=" := .symbol (by decide)
    have hoperand : "\"login bug\"".toList = quoted '"' "login bug".toList := rfl
    have hread := readsAs_of_opensQuote hname (Or.inl rfl) hop (by decide) (Or.inl rfl) (by decide)
      hoperand (Scan.opensQuote_double _)
    have htext : filterText "subject" "=" "\"login bug\"" = "subject:=\"login bug\"" := rfl
    rw [htext, hcanonical, String.ofList_toList] at hread
    rw [readNamed, hkind, ok_bind]
    exact hread

end Query

end IssueQuery
