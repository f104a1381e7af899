import IssueQuery.Proofs.Query.Spelling

/-!
# Quoted operands

A quoted operand is kept as it stands, whatever it consists of, as soon as its quote opens.  A
double quote opens everywhere, so this holds behind every spelling of an operator.
-/

namespace IssueQuery

open Outcome
open Literal (quoted)

variable {kind : EntityKind} {type : FieldType} {name spelling : String} {op : Operator}
  {q : Char} {text : List Char} {position : Nat}

/-! ## Operands in quotes -/

namespace FilterClause

theorem isPlain_of_isSymbolChar {c : Char} (h : Operator.isSymbolChar c) : Token.isPlain c := by
  simp only [Operator.isSymbolChar, Bool.or_eq_true, decide_eq_true_eq] at h
  rcases h with (((rfl | rfl) | rfl) | rfl) | rfl
  all_goals decide

/-- The spelling of an operator leaves nothing open. -/
theorem isPlain_of_writtenAs (h : op.WrittenAs spelling) :
    ∀ c ∈ spelling.toList, Token.isPlain c := by
  have hcolon : ∀ {spelling : String}, (∀ c ∈ spelling.toList, Token.isPlain c) →
      ∀ c ∈ (spelling ++ ":").toList, Token.isPlain c := by
    intro spelling hspelling c hc
    rw [String.toList_append, List.mem_append] at hc
    rcases hc with hc | hc
    · exact hspelling c hc
    · obtain rfl := List.mem_singleton.mp hc
      decide
  have hsymbol : ∀ {symbol : String} {op : Operator}, (symbol, op) ∈ Operator.symbols →
      ∀ c ∈ symbol.toList, Token.isPlain c := by
    intro symbol op hmem c hc
    exact isPlain_of_isSymbolChar ((Operator.isSymbolChar_of_mem hmem).2 c hc)
  cases h with
  | bare => simp
  | symbol hmem => exact hsymbol hmem
  | symbolColon hmem => exact hcolon (hsymbol hmem)
  | name hnamed => exact hcolon fun c hc => (isPlain_of_isOperatorName hnamed.letters c hc).1

theorem splitOperator_quoted (h : op.WrittenAs spelling) (hq : q = '"' ∨ q = '\'')
    (htext : q ∉ text) :
    splitOperator (spelling.toList ++ quoted q text) position =
      .ok ⟨op, some (quoted q text), position + spelling.toList.length⟩ := by
  have hsymbolChar : Operator.isSymbolChar q = false := by
    rcases hq with rfl | rfl <;> decide
  have hne : quoted q text ≠ [] := List.cons_ne_nil _ _
  cases h with
  | bare =>
      have hopen : Scan.start.opensQuote q := by
        rcases hq with rfl | rfl <;> decide
      have hpartition : Scan.partition ':' (quoted q text) = (quoted q text, none) :=
        Scan.partition_of_avoids (Scan.avoids_quoted (Scan.sparesQuotes_cuts ':') rfl hopen htext)
      have hname : NamesNothing (Scan.partition ':' (quoted q text)).1 := by
        rw [hpartition]
        apply namesNothing_of_mem List.mem_cons_self
        all_goals rcases hq with rfl | rfl <;> decide
      apply splitOperator_of_namesNothing hne _ hname
      intro c hc
      obtain rfl : q = c := Option.some.inj hc
      exact hsymbolChar
  | symbol hmem =>
      have hcolon : (quoted q text).head? ≠ some ':' := by
        rcases hq with rfl | rfl <;> simp [quoted]
      rw [← (splitSymbol_of_mem_symbols hmem hne).2 hcolon]
      exact splitOperator_of_mem_symbols hmem _ hsymbolChar
  | symbolColon hmem =>
      rw [Operator.toList_append_colon, Operator.length_append_colon,
        ← (splitSymbol_of_mem_symbols hmem hne).1]
      exact splitOperator_of_mem_symbols hmem _ (by decide)
  | name hnamed =>
      rw [Operator.toList_append_colon, Operator.length_append_colon]
      exact splitOperator_of_isNamed hnamed hne

theorem readOperand_quoted (field : String) (hscalar : ¬op.relation.takesList)
    (hq : q = '"' ∨ q = '\'') (htext : q ∉ text) :
    readOperand field ⟨op, some (quoted q text), position⟩ =
      .ok (op, .string (String.ofList text)) := by
  have hlist : ¬(quoted q text).head? = some '[' := by
    rcases hq with rfl | rfl <;> simp [quoted]
  have hquote : (Literal.openingQuote? (quoted q text)).isNone = false := by
    rcases hq with rfl | rfl <;> rfl
  unfold readOperand
  simp [hscalar, hlist, hquote, Literal.readScalar_quoted position hq htext, ok_bind, pure,
    Except.pure]

/-- Texts and values of an enumeration may stand behind every operator that takes no list. -/
theorem admits_of_not_takesList {r : Relation} (htype : type = .string ∨ type = .enum)
    (hscalar : ¬r.takesList) : r.admits type := by
  rcases htype with rfl | rfl <;> cases r <;> simp_all [Relation.admits, Relation.takesList,
    Relation.isOrdering, Relation.isTextual]

theorem checkOperand_of_text (field : String) (operand : Value) (token : Token)
    (htype : type = .string ∨ type = .enum) :
    checkOperand field type op operand token = .ok operand := by
  rcases htype with rfl | rfl <;> simp [checkOperand]

theorem ofToken_quoted (hname : Field.IsWritten kind type name)
    (htype : type = .string ∨ type = .enum) (hop : op.WrittenAs spelling)
    (hscalar : ¬op.relation.takesList) (hq : q = '"' ∨ q = '\'') (htext : q ∉ text) {token : Token}
    (htoken : token.text.toList = name.toList ++ ':' :: (spelling.toList ++ quoted q text)) :
    ofToken kind token = .ok ⟨Field.canonical name, op, .string (String.ofList text)⟩ := by
  rw [ofToken_of_isWritten hname htoken, splitOperator_quoted hop hq htext, ok_bind,
    readOperand_quoted _ hscalar hq htext, ok_bind]
  simp [admits_of_not_takesList htype hscalar, checkOperand_of_text _ _ _ htype, ok_bind, pure,
    Except.pure]

end FilterClause

/-! ## Filters with quoted operands -/

namespace Query

theorem toList_inQuotes (quote : String) (s : String) (hquote : quote.toList = [q]) :
    (quote ++ s ++ quote).toList = quoted q s.toList := by
  simp [hquote, quoted]

/-- A quoted operand is read as it stands if the scanner comes to its end. -/
theorem readsAs_quoted {operand : String} (hname : Field.IsWritten kind type name)
    (htype : type = .string ∨ type = .enum) (hop : op.WrittenAs spelling)
    (hscalar : ¬op.relation.takesList) (hq : q = '"' ∨ q = '\'') (htext : q ∉ text)
    (hoperand : operand.toList = quoted q text)
    (havoids : (Token.behindColon.run spelling.toList).Avoids Token.stopsAt (quoted q text))
    (htop : ((Token.behindColon.run spelling.toList).run (quoted q text)).isTop) :
    ReadsAs kind (filterText name spelling operand)
      ⟨Field.canonical name, op, .string (String.ofList text)⟩ := by
  have hchars := toList_filterText name spelling operand
  rw [hoperand] at hchars
  have hplain := FilterClause.isPlain_of_writtenAs hop
  have hlast : (':' :: (spelling.toList ++ quoted q text)).getLast? ≠ some ')' := by
    have hend : (':' :: (spelling.toList ++ quoted q text)).getLast? = some q := by
      simp [quoted, List.getLast?_cons, List.getLast?_append]
    rw [hend]
    rcases hq with rfl | rfl <;> decide
  have htoken : Token.ofQuery (filterText name spelling operand) =
      .ok [⟨.fieldExpr, filterText name spelling operand, 0⟩] := by
    apply Token.ofQuery_of_isFieldName hname.isName hchars
    · rw [Scan.avoids_append]
      exact ⟨Token.avoids_of_isPlain _ hplain, havoids⟩
    · rw [Scan.run_append]
      exact htop
    · exact hlast
  rw [readsAs_iff_ofToken htoken rfl,
    FilterClause.ofToken_quoted hname htype hop hscalar hq htext hchars]
  rfl

/-- A quote that opens keeps all that follows in the word. -/
theorem readsAs_of_opensQuote {operand : String} (hname : Field.IsWritten kind type name)
    (htype : type = .string ∨ type = .enum) (hop : op.WrittenAs spelling)
    (hscalar : ¬op.relation.takesList) (hq : q = '"' ∨ q = '\'') (htext : q ∉ text)
    (hoperand : operand.toList = quoted q text)
    (hopen : (Token.behindColon.run spelling.toList).opensQuote q) :
    ReadsAs kind (filterText name spelling operand)
      ⟨Field.canonical name, op, .string (String.ofList text)⟩ := by
  have hstate := Token.run_of_isPlain (s := Token.behindColon) rfl
    (FilterClause.isPlain_of_writtenAs hop)
  have hquote : (Token.behindColon.run spelling.toList).quote = none := by
    rw [hstate]
    rfl
  apply readsAs_quoted hname htype hop hscalar hq htext hoperand
  · exact Scan.avoids_quoted Scan.sparesQuotes_stopsAt hquote hopen htext
  · rw [Scan.run_quoted hquote hopen htext, hstate]
    rfl

/-- A text in double quotes is the operand as it stands: it is never taken apart and never read as a
number, a range or a wildcard. -/
theorem double_quoted_operand_is_kept (kind : EntityKind) (type : FieldType)
    (name spelling s : String) (op : Operator) (hname : Field.IsWritten kind type name)
    (htype : type = .string ∨ type = .enum) (hop : op.WrittenAs spelling)
    (hscalar : ¬op.relation.takesList) (hs : '"' ∉ s.toList) :
    ReadsAs kind (filterText name spelling ("\"" ++ s ++ "\""))
      ⟨Field.canonical name, op, .string s⟩ := by
  have hread := readsAs_of_opensQuote hname htype hop hscalar (Or.inl rfl) hs
    (toList_inQuotes "\"" s rfl) (Scan.opensQuote_double _)
  rwa [String.ofList_toList] at hread

theorem double_quoted_operand_is_kept_alias :
    Field.IsWritten .issue .string "Sprint" ∧
    Relation.startsWith.holds.WrittenAs ("Starts_With" ++ ":") ∧
    ReadsAs .issue "Sprint:Starts_With:\"it's (a) [b.. AND *: 7\""
      ⟨"milestone", Relation.startsWith.holds, .string "it's (a) [b.. AND *: 7"⟩ := by
  have hname : Field.IsWritten .issue .string "Sprint" := ⟨by decide, by decide +kernel⟩
  have hop : Relation.startsWith.holds.WrittenAs ("Starts_With" ++ ":") :=
    .name ⟨by decide, by decide +kernel, by decide⟩
  have hread := double_quoted_operand_is_kept .issue .string "Sprint" ("Starts_With" ++ ":")
    "it's (a) [b.. AND *: 7" _ hname (Or.inl rfl) hop (by decide) (by decide)
  have hcanonical : Field.canonical "Sprint" = "milestone" := by decide +kernel
  rw [hcanonical] at hread
  exact ⟨hname, hop, hread⟩
end Query

end IssueQuery
