import IssueQuery.Proofs.Query.Quotation
import IssueQuery.Proofs.Query.Single
import IssueQuery.Proofs.Table

/-!
# How fields and operators are written

A field may be written by its own name or by an alias, an operator as a symbol or by one of its
names, all in any letter case.  Each spelling is read back as what it spells, whatever operand
follows it.  A text that shows a character beyond letters and underscores is no name of an operator,
and so belongs to the operand.
-/

namespace IssueQuery

open Outcome

variable {kind : EntityKind} {type : FieldType} {name : String} {op : Operator} {c : Char}
  {cs rest raw : List Char} {position : Nat}

/-! ## Fields -/

/-- `name` writes a field of a type: as it stands in the catalogue or as an alias, in any case. -/
structure Field.IsWritten (kind : EntityKind) (type : FieldType) (name : String) : Prop where
  isName : Token.isFieldName name.toList
  typed : Field.type? kind (Field.canonical name) = some type

/-- Every field of the catalogue is written by its own name. -/
theorem Field.isWritten_of_type? {field : String} (h : Field.type? kind field = some type) :
    Field.IsWritten kind type field ∧ Field.canonical field = field := by
  have hnames : ∀ kind, ∀ p ∈ Field.catalogue kind,
      Token.isFieldName p.1.toList ∧ Field.canonical p.1 = p.1 := by
    intro kind
    cases kind <;> decide +kernel
  obtain ⟨hname, hcanonical⟩ := hnames kind _ (Table.mem_of_lookup h)
  refine ⟨⟨hname, ?_⟩, hcanonical⟩
  rw [hcanonical]
  exact h

namespace Token

theorem isPlain_of_isFieldName (h : isFieldName cs) : ∀ c ∈ cs, isPlain c ∧ c ≠ ':' := by
  have hchar : ∀ c : Char, c.isAlphanum ∨ c = '_' ∨ c = '.' → isPlain c ∧ c ≠ ':' := by
    rintro c (hc | rfl | rfl)
    · refine ⟨isPlain_of_isAlphanum hc, ?_⟩
      rintro rfl
      exact absurd hc (by decide)
    · decide
    · decide
  cases cs with
  | nil => cases h
  | cons d cs =>
      simp only [isFieldName, Bool.and_eq_true, Bool.or_eq_true, decide_eq_true_eq,
        List.all_eq_true, or_assoc] at h
      obtain ⟨hd, hcs⟩ := h
      intro c hc
      apply hchar
      rcases List.mem_cons.mp hc with rfl | hc
      · rcases hd with hd | hd
        · exact Or.inl (by simp [Char.isAlphanum, hd])
        · exact Or.inr (Or.inl hd)
      · exact hcs c hc

theorem takeWhile_of_isFieldName (h : isFieldName cs) (rest : List Char) :
    (cs ++ ':' :: rest).takeWhile (· ≠ ':') = cs := by
  have hcs : ∀ c ∈ cs, decide (c ≠ ':') = true := fun c hc =>
    decide_eq_true (isPlain_of_isFieldName h c hc).2
  rw [List.takeWhile_append_of_pos hcs]
  simp

/-- A word that begins with a field and a colon is a filter, unless a parenthesis closes it. -/
theorem classify_of_isFieldName (h : isFieldName cs) (rest : List Char) (position : Nat) :
    classify (cs ++ ':' :: rest) position =
      ⟨if (cs ++ ':' :: rest).getLast? = some ')' then .paren else .fieldExpr,
        String.ofList (cs ++ ':' :: rest), position⟩ := by
  have hopen : (cs ++ ':' :: rest).head? ≠ some '(' := by
    cases cs with
    | nil => cases h
    | cons d cs =>
        intro hhead
        obtain rfl : d = '(' := by simpa using hhead
        exact absurd h (by simp [isFieldName])
  have hfield : ((cs ++ ':' :: rest).contains ':' &&
      isFieldName ((cs ++ ':' :: rest).takeWhile (· ≠ ':'))) = true := by
    rw [takeWhile_of_isFieldName h rest, h]
    simp
  unfold classify
  dsimp only
  rw [decide_eq_false hopen, Bool.false_or]
  by_cases hclose : (cs ++ ':' :: rest).getLast? = some ')'
  · rw [if_pos hclose, if_pos (by simpa using hclose)]
  · rw [if_neg hclose, if_neg (by simpa using hclose), if_pos hfield]

/-- The state behind the colon of a filter. -/
def behindColon : Scan :=
  ⟨some ':', none, 0⟩

/-- The scanner takes a field and the colon behind it into the word. -/
theorem avoids_of_isFieldName (h : isFieldName cs) :
    Scan.start.Avoids stopsAt (cs ++ [':']) ∧ Scan.start.run (cs ++ [':']) = behindColon := by
  have hplain : ∀ c ∈ cs ++ [':'], isPlain c := by
    intro c hc
    rcases List.mem_append.mp hc with hc | hc
    · exact (isPlain_of_isFieldName h c hc).1
    · obtain rfl := List.mem_singleton.mp hc
      decide
  refine ⟨avoids_of_isPlain .start hplain, ?_⟩
  rw [run_of_isPlain rfl hplain]
  simp [behindColon, Scan.start]

/-- A field, a colon and a text without a stop make a single filter. -/
theorem ofQuery_of_isFieldName {query : String} (h : isFieldName cs)
    (hquery : query.toList = cs ++ ':' :: rest) (hrest : behindColon.Avoids stopsAt rest)
    (htop : (behindColon.run rest).isTop) (hlast : (':' :: rest).getLast? ≠ some ')') :
    ofQuery query = .ok [⟨.fieldExpr, query, 0⟩] := by
  obtain ⟨hfield, hcolon⟩ := avoids_of_isFieldName h
  have hsplit : query.toList = (cs ++ [':']) ++ rest := by
    rw [hquery, List.append_assoc, List.singleton_append]
  have havoids : Scan.start.Avoids stopsAt query.toList := by
    rw [hsplit, Scan.avoids_append, hcolon]
    exact ⟨hfield, hrest⟩
  have hclosed : (Scan.start.run query.toList).isTop := by
    rw [hsplit, Scan.run_append, hcolon]
    exact htop
  have hend : (cs ++ ':' :: rest).getLast? ≠ some ')' := by
    rw [List.getLast?_append_of_ne_nil _ (List.cons_ne_nil ':' rest)]
    exact hlast
  rw [ofQuery_of_avoids (by simp [hquery]) havoids hclosed, hquery,
    classify_of_isFieldName h, if_neg hend, ← hquery, String.ofList_toList]

end Token

/-! ## Operators -/

/-- `name` is a name, in any case, of an operator that takes an operand. -/
structure Operator.IsNamed (op : Operator) (name : String) : Prop where
  letters : FilterClause.isOperatorName name.toList
  lookup : Operator.names.lookup (Text.lower name) = some op
  takesOperand : ¬op.relation.isValueless

/-- How an operator is written in front of its operand: a test for equality not at all, others as a
symbol, with a colon or without, or as a name with a colon. -/
inductive Operator.WrittenAs : Operator → String → Prop where
  | bare : WrittenAs Relation.equal.holds ""
  | symbol {op : Operator} {symbol : String} (h : (symbol, op) ∈ Operator.symbols) :
      WrittenAs op symbol
  | symbolColon {op : Operator} {symbol : String} (h : (symbol, op) ∈ Operator.symbols) :
      WrittenAs op (symbol ++ ":")
  | name {op : Operator} {name : String} (h : op.IsNamed name) : WrittenAs op (name ++ ":")

namespace Operator

theorem lookup_symbols {symbol : String} (h : (symbol, op) ∈ symbols) :
    symbols.lookup symbol = some op := by
  have hall : ∀ p ∈ symbols, symbols.lookup p.1 = some p.2 := by decide +kernel
  exact hall _ h

theorem isSymbolChar_of_mem {symbol : String} (h : (symbol, op) ∈ symbols) :
    symbol.toList ≠ [] ∧ ∀ c ∈ symbol.toList, isSymbolChar c := by
  have hall : symbols.all fun p => !p.1.toList.isEmpty && p.1.toList.all isSymbolChar := by decide
  have hsymbol := List.all_eq_true.mp hall _ h
  simpa using hsymbol

theorem toList_append_colon (spelling : String) (raw : List Char) :
    (spelling ++ ":").toList ++ raw = spelling.toList ++ ':' :: raw := by
  simp

theorem length_append_colon (spelling : String) :
    (spelling ++ ":").toList.length = spelling.toList.length + 1 := by
  simp

/-- All names of operators consist of letters and underscores. -/
theorem lookup_names_eq_none (hc : c ∈ name.toList) (hascii : Text.Case.isAscii c)
    (hletter : ¬c.isAlpha) (hunder : c ≠ '_') : names.lookup (Text.lower name) = none := by
  have hnames : names.all fun p => p.1.toList.all fun d => d.isAlpha || d = '_' := by decide
  cases hlookup : names.lookup (Text.lower name) with
  | none => rfl
  | some op =>
      have hlower : c ∈ (Text.lower name).toList := by
        rw [Text.toList_lower, Text.Case.lower,
          ← Text.Case.toLower_of_not_isAlpha hascii hletter]
        exact Text.Case.mem_lowerFrom false hc hascii
      have hname := List.all_eq_true.mp (List.all_eq_true.mp hnames _ (Table.mem_of_lookup hlookup))
        c hlower
      simp only [Bool.or_eq_true, decide_eq_true_eq] at hname
      rcases hname with halpha | rfl
      · exact absurd halpha hletter
      · exact absurd rfl hunder

end Operator

namespace FilterClause

/-- A text that cannot be taken for the name of an operator. -/
structure NamesNothing (cs : List Char) : Prop where
  lookup : Operator.names.lookup (Text.lower (String.ofList cs)) = none
  shape : isOperatorName cs = false

theorem namesNothing_nil : NamesNothing [] where
  lookup := by decide +kernel
  shape := rfl

/-- All names of operators consist of letters and underscores. -/
theorem namesNothing_of_mem (hc : c ∈ cs) (hascii : Text.Case.isAscii c) (hletter : ¬c.isAlpha)
    (hunder : c ≠ '_') : NamesNothing cs where
  lookup := by
    apply Operator.lookup_names_eq_none _ hascii hletter hunder
    rw [String.toList_ofList]
    exact hc
  shape := by
    rw [Bool.eq_false_iff]
    intro hname
    simp only [isOperatorName, Bool.and_eq_true, List.all_eq_true, Bool.or_eq_true,
      decide_eq_true_eq] at hname
    rcases hname.2 c hc with halpha | hunderscore
    · exact hletter halpha
    · exact hunder hunderscore

/-- A text with no operator in front is the operand of a test for equality. -/
theorem splitOperator_of_namesNothing (hne : raw ≠ [])
    (hsymbol : ∀ c, raw.head? = some c → Operator.isSymbolChar c = false)
    (hname : NamesNothing (Scan.partition ':' raw).1) :
    splitOperator raw position = .ok ⟨Relation.equal.holds, some raw, position⟩ := by
  obtain ⟨c, cs, rfl⟩ := List.exists_cons_of_ne_nil hne
  have hnosymbol : (c :: cs).takeWhile Operator.isSymbolChar = [] := by
    rw [List.takeWhile_cons, hsymbol c rfl, if_neg Bool.false_ne_true]
  unfold splitOperator splitName
  rw [hnosymbol]
  dsimp only
  rw [hname.lookup, hname.shape]
  cases (Scan.partition ':' (c :: cs)).2 <;> rfl

theorem ne_nil_of_isOperatorName (h : isOperatorName cs) : cs ≠ [] := by
  rintro rfl
  cases h

theorem isPlain_of_isOperatorName (h : isOperatorName cs) :
    ∀ c ∈ cs, Token.isPlain c ∧ c ≠ ':' ∧ Operator.isSymbolChar c = false := by
  simp only [isOperatorName, Bool.and_eq_true, List.all_eq_true, Bool.or_eq_true,
    decide_eq_true_eq] at h
  intro c hc
  rcases h.2 c hc with halpha | rfl
  · have hnum : c.isAlphanum := by simp [Char.isAlphanum, halpha]
    have hother := Text.Case.forall_isAscii
      (p := fun c => c.isAlpha → c ≠ ':' ∧ Operator.isSymbolChar c = false) (by decide +kernel)
      (Text.Case.isAscii_of_isAlphanum hnum) halpha
    exact ⟨Token.isPlain_of_isAlphanum hnum, hother⟩
  · decide

/-- What follows the name of an operator and a colon is the operand. -/
theorem splitOperator_of_isNamed (h : op.IsNamed name) (hraw : raw ≠ []) :
    splitOperator (name.toList ++ ':' :: raw) position =
      .ok ⟨op, some raw, position + name.toList.length + 1⟩ := by
  have hchars := isPlain_of_isOperatorName h.letters
  obtain ⟨c, cs, hcs⟩ := List.exists_cons_of_ne_nil (ne_nil_of_isOperatorName h.letters)
  have hnosymbol : (name.toList ++ ':' :: raw).takeWhile Operator.isSymbolChar = [] := by
    have hc : Operator.isSymbolChar c = false := (hchars c (by simp [hcs])).2.2
    rw [hcs, List.cons_append, List.takeWhile_cons, hc, if_neg Bool.false_ne_true]
  have htop : (Scan.start.run name.toList).isTop := by
    rw [Token.run_of_isPlain rfl fun c hc => (hchars c hc).1]
    rfl
  have hpartition : Scan.partition ':' (name.toList ++ ':' :: raw) = (name.toList, some raw) := by
    apply Scan.partition_append
    · exact Scan.avoids_cuts_of_not_mem _ fun hc => (hchars ':' hc).2.1 rfl
    · exact Scan.cutsAt_of_isNeutral htop (by decide)
  unfold splitOperator splitName
  simp [hnosymbol, hpartition, h.lookup, h.takesOperand, hraw]

/-- A symbol ends in front of the first character that belongs to none. -/
theorem splitOperator_of_mem_symbols {symbol : String} (h : (symbol, op) ∈ Operator.symbols)
    (rest : List Char) (hc : Operator.isSymbolChar c = false) :
    splitOperator (symbol.toList ++ c :: rest) position =
      splitSymbol symbol.toList (c :: rest) position := by
  obtain ⟨hne, hchars⟩ := Operator.isSymbolChar_of_mem h
  have hsymbol : (symbol.toList ++ c :: rest).takeWhile Operator.isSymbolChar = symbol.toList := by
    simp [List.takeWhile_append_of_pos hchars, hc]
  have hrest : (symbol.toList ++ c :: rest).dropWhile Operator.isSymbolChar = c :: rest := by
    simp [List.dropWhile_append_of_pos hchars, hc]
  unfold splitOperator
  simp [hsymbol, hrest, hne]

/-- The operand follows the symbol, with a colon between them or without. -/
theorem splitSymbol_of_mem_symbols {symbol : String} (h : (symbol, op) ∈ Operator.symbols)
    (hraw : raw ≠ []) :
    splitSymbol symbol.toList (':' :: raw) position =
        .ok ⟨op, some raw, position + (symbol.toList.length + 1)⟩ ∧
      (raw.head? ≠ some ':' → splitSymbol symbol.toList raw position =
        .ok ⟨op, some raw, position + symbol.toList.length⟩) := by
  obtain ⟨c, cs, rfl⟩ := List.exists_cons_of_ne_nil hraw
  unfold splitSymbol
  constructor
  · simp [Operator.lookup_symbols h]
  · intro hcolon
    have hc : c ≠ ':' := by simpa using hcolon
    simp [Operator.lookup_symbols h, hc]

/-! ## Filters -/

/-- Behind a field that is known, reading goes on with the operator and its operand. -/
theorem ofToken_of_isWritten (h : Field.IsWritten kind type name) {token : Token}
    (htext : token.text.toList = name.toList ++ ':' :: rest) :
    ofToken kind token = (do
      let split ← splitOperator rest (token.position + name.toList.length + 1)
      let (operator, operand) ← readOperand (Field.canonical name) split
      if operator.relation.admits type then
        return {
          field := Field.canonical name
          operator
          operand := ← checkOperand (Field.canonical name) type operator operand token }
      else
        SyntaxError.near (.inapplicable operator type (Field.canonical name)) token.text
          token.position) := by
  have hdrop : (name.toList ++ ':' :: rest).drop (name.toList.length + 1) = rest := by
    simp
  unfold ofToken
  dsimp only
  rw [htext, Token.takeWhile_of_isFieldName h.isName, hdrop, String.ofList_toList, h.typed]

end FilterClause

namespace Query

/-- A filter as it is written. -/
def filterText (name spelling operand : String) : String :=
  name ++ ":" ++ spelling ++ operand

theorem toList_filterText (name spelling operand : String) :
    (filterText name spelling operand).toList =
      name.toList ++ ':' :: (spelling.toList ++ operand.toList) := by
  simp [filterText]

end Query

end IssueQuery
