import IssueQuery.Proofs.Query.Bracketed

/-!
# Bare words

A word without quotes is an operand behind every spelling of an operator, and an element of a list
in brackets.  If it spells a number, this number is the operand, and the word itself is lost.
-/

namespace IssueQuery

open Outcome
open Literal (bracketed)

variable {kind : EntityKind} {type : FieldType} {name opName spelling w : String} {op : Operator}
  {c : Char} {cs : List Char} {position : Nat}

/-! ## Words -/

namespace Literal

/-- What a word stands for: the number that it spells, or else itself. -/
def ofWord (w : String) : Value :=
  match Number.read? w with
  | some n => .number n
  | none => .string w

/-- The characters of bare words. -/
def isWordChar (c : Char) : Bool :=
  Token.isPlain c && c ≠ '(' && c ≠ ')' && c ≠ ',' && c ≠ ':' && c ≠ '*'

/-- A word that is an operand without quotes, as it stands: nothing in it parts, encloses or
abbreviates anything, and it is neither a range nor taken for an operator. -/
structure IsBareWord (w : String) : Prop where
  nonempty : w.toList ≠ []
  chars : ∀ c ∈ w.toList, isWordChar c
  noPair : ¬['.', '.'] <:+: w.toList
  first : ∀ c, w.toList.head? = some c → Operator.isSymbolChar c = false
  valued : ∀ op, Operator.names.lookup (Text.lower w) = some op → ¬op.relation.isValueless

theorem isWordChar_iff : isWordChar c ↔
    Token.isPlain c ∧ c ≠ '(' ∧ c ≠ ')' ∧ c ≠ ',' ∧ c ≠ ':' ∧ c ≠ '*' := by
  simp [isWordChar, and_assoc]

namespace IsBareWord

theorem isPlain (h : IsBareWord w) : ∀ c ∈ w.toList, Token.isPlain c := fun c hc =>
  (isWordChar_iff.mp (h.chars c hc)).1

theorem isNeutral (h : IsBareWord w) : ∀ c ∈ w.toList, Scan.isNeutral c := fun c hc =>
  (Token.isPlain_iff.mp (h.isPlain c hc)).2

theorem not_isBlank (h : IsBareWord w) : ∀ c ∈ w.toList, Text.isBlank c = false := fun c hc =>
  (Token.isPlain_iff.mp (h.isPlain c hc)).1

theorem not_mem (h : IsBareWord w) (hc : isWordChar c = false) : c ∉ w.toList := by
  intro hmem
  rw [h.chars c hmem] at hc
  cases hc

theorem passes_cuts (h : IsBareWord w) : Scan.Passes (Scan.cuts ',') 0 w.toList := by
  apply Scan.passes_of_isNeutral h.isNeutral
  intro s _ c hc
  exact Scan.cuts_of_ne s (isWordChar_iff.mp (h.chars c hc)).2.2.2.1

theorem passes_stopsAt (h : IsBareWord w) (depth : Int) :
    Scan.Passes Token.stopsAt depth w.toList := by
  apply Scan.passes_of_isNeutral h.isNeutral
  intro s _ c hc
  exact Token.stopsAt_of_isPlain s (h.isPlain c hc)

theorem trimChars (h : IsBareWord w) : Text.trimChars w.toList = w.toList := by
  have htrim : Text.trimChars ([] ++ w.toList ++ []) = w.toList := by
    apply Text.trimChars_append (by simp) (by simp)
    · exact fun c hc => h.not_isBlank c (List.mem_of_mem_head? hc)
    · exact fun c hc => h.not_isBlank c (List.mem_of_getLast? hc)
    · exact h.nonempty
  rwa [List.nil_append, List.append_nil] at htrim

theorem openingQuote? (h : IsBareWord w) : Literal.openingQuote? w.toList = none := by
  unfold Literal.openingQuote?
  split
  · rename_i hw
    exact absurd (hw ▸ List.mem_cons_self) (h.not_mem (by decide))
  · rename_i hw
    exact absurd (hw ▸ List.mem_cons_self) (h.not_mem (by decide))
  · rfl

end IsBareWord

theorem readScalar_of_isBareWord (h : IsBareWord w) (position : Nat) :
    readScalar w.toList position = .ok (ofWord w) := by
  have hquote : w.toList.contains '"' = false := by
    simpa using h.not_mem (by decide : isWordChar '"' = false)
  rw [readScalar, h.openingQuote?]
  dsimp only
  rw [hquote, if_neg Bool.false_ne_true, String.ofList_toList, ofWord]
  cases Number.read? w <;> rfl

theorem readElements_of_isBareWord {words : List String} (h : ∀ w ∈ words, IsBareWord w)
    (raw : List Char) (start position : Nat) :
    readElements raw start position (words.map String.toList) = .ok (words.map ofWord) := by
  induction words generalizing position with
  | nil => rfl
  | cons w words ih =>
      have hw := h w List.mem_cons_self
      rw [List.map_cons, readElements_cons, hw.trimChars, readScalar_of_isBareWord hw, ok_bind,
        ih fun v hv => h v (List.mem_cons_of_mem w hv)]
      · rfl
      all_goals rw [hw.trimChars]
      · exact hw.nonempty
      · exact hw.not_mem (by decide)
      · exact hw.not_mem (by decide)

end Literal

open Literal (IsBareWord ofWord)

/-! ## Words behind operators -/

namespace FilterClause

theorem splitRange?_eq_none (h : ¬['.', '.'] <:+: cs) : splitRange? cs = none := by
  induction cs with
  | nil => rfl
  | cons c cs ih =>
      have hrest : ¬['.', '.'] <:+: cs := fun hpair =>
        h (hpair.trans (List.suffix_cons c cs).isInfix)
      have hnext : ∀ ds, c = '.' → cs = '.' :: ds → False := by
        rintro ds rfl rfl
        exact h ⟨[], ds, rfl⟩
      rw [splitRange?.eq_3 _ _ hnext, ih hrest]
      rfl

/-- A word is the operand of a test for equality even if it names an operator, as long as this
operator takes an operand. -/
theorem splitOperator_bare (h : IsBareWord w) :
    splitOperator w.toList position = .ok ⟨Relation.equal.holds, some w.toList, position⟩ := by
  obtain ⟨c, cs, hcs⟩ := List.exists_cons_of_ne_nil h.nonempty
  have hnosymbol : w.toList.takeWhile Operator.isSymbolChar = [] := by
    rw [hcs, List.takeWhile_cons, h.first c (by rw [hcs]; rfl), if_neg Bool.false_ne_true]
  have hpartition : Scan.partition ':' w.toList = (w.toList, none) :=
    Scan.partition_of_avoids (Scan.avoids_cuts_of_not_mem _ (h.not_mem (by decide)))
  unfold splitOperator splitName
  rw [hnosymbol, hpartition]
  dsimp only
  rw [String.ofList_toList]
  have hempty : w.toList.isEmpty = false := by simpa using h.nonempty
  rw [hempty, if_neg Bool.false_ne_true, List.isEmpty_nil, if_pos rfl]
  cases hlookup : Operator.names.lookup (Text.lower w) with
  | none => rfl
  | some op =>
      dsimp only
      rw [if_neg (h.valued op hlookup)]

theorem splitOperator_of_isBareWord (hop : op.WrittenAs spelling) (h : IsBareWord w) :
    splitOperator (spelling.toList ++ w.toList) position =
      .ok ⟨op, some w.toList, position + spelling.toList.length⟩ := by
  obtain ⟨c, cs, hcs⟩ := List.exists_cons_of_ne_nil h.nonempty
  have hfirst : Operator.isSymbolChar c = false := h.first c (by rw [hcs]; rfl)
  cases hop with
  | bare => exact splitOperator_bare h
  | symbol hmem =>
      have hcolon : w.toList.head? ≠ some ':' := fun hhead =>
        h.not_mem (by decide) (List.mem_of_mem_head? hhead)
      rw [← (splitSymbol_of_mem_symbols hmem h.nonempty).2 hcolon, hcs]
      exact splitOperator_of_mem_symbols hmem _ hfirst
  | symbolColon hmem =>
      rw [Operator.toList_append_colon, Operator.length_append_colon,
        ← (splitSymbol_of_mem_symbols hmem h.nonempty).1]
      exact splitOperator_of_mem_symbols hmem _ (by decide)
  | name hnamed =>
      rw [Operator.toList_append_colon, Operator.length_append_colon]
      exact splitOperator_of_isNamed hnamed h.nonempty

theorem readOperand_of_isBareWord (field : String) (hscalar : ¬op.relation.takesList)
    (h : IsBareWord w) :
    readOperand field ⟨op, some w.toList, position⟩ = .ok (op, ofWord w) := by
  have hlist : ¬w.toList.head? = some '[' := fun hhead =>
    h.not_mem (by decide) (List.mem_of_mem_head? hhead)
  have hstar : w.toList.contains '*' = false := by
    simpa using h.not_mem (by decide : Literal.isWordChar '*' = false)
  have hscalarRead := Literal.readScalar_of_isBareWord h position
  unfold readOperand
  simp only [hscalar, hlist, hstar, splitRange?_eq_none h.noPair, hscalarRead, ok_bind,
    Bool.false_eq_true, if_false]
  split <;> rfl

end FilterClause

/-! ## Filters with bare words -/

namespace Query

/-- Behind every operator without a list, a word is read as what it stands for if this suits the
field. -/
theorem readsAs_of_checkOperand (hname : Field.IsWritten kind type name)
    (hop : op.WrittenAs spelling) (hscalar : ¬op.relation.takesList)
    (hadmits : op.relation.admits type) (h : IsBareWord w)
    (hchecked : ∀ token, FilterClause.checkOperand (Field.canonical name) type op (ofWord w) token =
      .ok (ofWord w)) :
    ReadsAs kind (filterText name spelling w) ⟨Field.canonical name, op, ofWord w⟩ := by
  have hchars := toList_filterText name spelling w
  have hplain : ∀ c ∈ spelling.toList ++ w.toList, Token.isPlain c := by
    intro c hc
    rcases List.mem_append.mp hc with hc | hc
    · exact FilterClause.isPlain_of_writtenAs hop c hc
    · exact h.isPlain c hc
  have hlast : (':' :: (spelling.toList ++ w.toList)).getLast? ≠ some ')' := by
    rw [List.getLast?_cons, List.getLast?_append_of_ne_nil _ h.nonempty,
      List.getLast?_eq_some_getLast h.nonempty, Option.getD_some, Ne, Option.some.injEq]
    intro hclose
    exact h.not_mem (by decide) (hclose ▸ List.getLast_mem h.nonempty)
  have htoken : Token.ofQuery (filterText name spelling w) =
      .ok [⟨.fieldExpr, filterText name spelling w, 0⟩] := by
    apply Token.ofQuery_of_isFieldName hname.isName hchars
    · exact Token.avoids_of_isPlain _ hplain
    · rw [Token.run_of_isPlain rfl hplain]
      rfl
    · exact hlast
  rw [readsAs_iff_ofToken htoken rfl, FilterClause.ofToken_of_isWritten hname hchars,
    FilterClause.splitOperator_of_isBareWord hop h, ok_bind,
    FilterClause.readOperand_of_isBareWord _ hscalar h, ok_bind]
  simp [hadmits, hchecked, ok_bind, pure, Except.pure, Except.toOption]

/-- Texts and entries of a vocabulary suit every word. -/
theorem readsAs_of_isBareWord (hname : Field.IsWritten kind type name)
    (htype : type = .string ∨ type = .enum) (hop : op.WrittenAs spelling)
    (hscalar : ¬op.relation.takesList) (h : IsBareWord w) :
    ReadsAs kind (filterText name spelling w) ⟨Field.canonical name, op, ofWord w⟩ :=
  readsAs_of_checkOperand hname hop hscalar (FilterClause.admits_of_not_takesList htype hscalar) h
    fun token => FilterClause.checkOperand_of_text _ _ token htype

/-- Words in brackets are a list of what they stand for if this suits the field. -/
theorem readsAs_bracketed_of_checkOperand {words : List String}
    (hname : Field.IsWritten kind type name) (hop : op.IsNamed opName)
    (hlist : op.relation.takesList) (hadmits : op.relation.admits type) (hne : words ≠ [])
    (hcount : op.relation = .between → words.length = 2) (h : ∀ w ∈ words, IsBareWord w)
    (hchecked : ∀ token, FilterClause.checkOperand (Field.canonical name) type op
      (.list (words.map ofWord)) token = .ok (.list (words.map ofWord))) :
    ReadsAs kind
      (filterText name (opName ++ ":") (String.ofList (bracketed (words.map String.toList))))
      ⟨Field.canonical name, op, .list (words.map ofWord)⟩ := by
  have hpart : ∀ part ∈ words.map String.toList, ∃ w, IsBareWord w ∧ w.toList = part := by
    intro part hpart
    obtain ⟨w, hw, rfl⟩ := List.mem_map.mp hpart
    exact ⟨w, h w hw, rfl⟩
  have hparts : ∀ part ∈ words.map String.toList, Scan.Passes (Scan.cuts ',') 0 part := by
    intro part hmem
    obtain ⟨w, hw, rfl⟩ := hpart part hmem
    exact hw.passes_cuts
  have hstops : ∀ part ∈ words.map String.toList, Scan.Passes Token.stopsAt 1 part := by
    intro part hmem
    obtain ⟨w, hw, rfl⟩ := hpart part hmem
    exact hw.passes_stopsAt 1
  have hchars := toList_filterText name (opName ++ ":")
    (String.ofList (bracketed (words.map String.toList)))
  rw [Operator.toList_append_colon, String.toList_ofList] at hchars
  rw [readsAs_iff_ofToken (ofQuery_bracketed hname hop hstops) rfl,
    FilterClause.ofToken_list hname hop hlist (Literal.bracketed_ne_nil _) hchars,
    Literal.readList_bracketed op _ (by simpa using hne) hparts,
    Literal.readElements_of_isBareWord h]
  have hbounds : ¬(op.relation = .between ∧ (words.map ofWord).length ≠ 2) := by
    rintro ⟨hbetween, hlength⟩
    exact hlength (by rw [List.length_map, hcount hbetween])
  simp only [ok_bind, if_neg hbounds]
  simp [hadmits, hchecked, ok_bind, pure, Except.pure, Except.toOption]

/-- A word in brackets is a list of what it stands for. -/
theorem readsAs_bracketed_of_isBareWord (hname : Field.IsWritten kind type name)
    (hop : op.IsNamed opName) (hlist : op.relation = .oneOf) (h : IsBareWord w) :
    ReadsAs kind (filterText name (opName ++ ":") ("[" ++ w ++ "]"))
      ⟨Field.canonical name, op, .list [ofWord w]⟩ := by
  have hoperand : "[" ++ w ++ "]" = String.ofList (bracketed ([w].map String.toList)) := by
    apply String.toList_injective
    simp [bracketed]
  rw [hoperand]
  apply readsAs_bracketed_of_checkOperand hname hop _ _ (List.cons_ne_nil _ _) (by simp [hlist])
    (List.forall_mem_singleton.mpr h)
  · intro token
    simp [FilterClause.checkOperand, hlist, Relation.isRanged, Relation.isOrdering]
  · rw [hlist]
    rfl
  · rw [hlist]
    rfl

end Query

end IssueQuery
