import IssueQuery.Proofs.Query.Bracketed
import IssueQuery.Proofs.Query.Position

/-!
# Ranges

A range `a..b` stands for the test of being between `a` and `b`.  Its bounds may show points and
colons of their own, as fractions and times of day do: the range is cut at the first pair of points,
and what stands before its first colon is no name of an operator.  So it is read whenever the list
of its bounds is, and as the same filter.
-/

namespace IssueQuery

open Outcome
open Literal (bracketed)

/-! ## The bounds of a range -/

namespace Range

variable {c : Char} {a b cs : List Char}

/-- The characters that bounds consist of. -/
def isBoundChar (c : Char) : Bool :=
  c.isAlphanum || c = '+' || c = '-' || c = '_' || c = '.' || c = ':'

/-- A text that can be the upper bound of a range. -/
structure IsUpper (cs : List Char) : Prop where
  nonempty : cs ≠ []
  chars : ∀ c ∈ cs, isBoundChar c
  noPair : ¬['.', '.'] <:+: cs

/-- A text that can be the lower bound of a range: it does not run into the points behind it, and
nothing in it looks like the name of an operator in front of a colon. -/
structure IsLower (cs : List Char) : Prop extends IsUpper cs where
  last : cs.getLast? ≠ some '.'
  first : ':' ∈ cs → ∀ c, cs.head? = some c → ¬c.isAlpha ∧ c ≠ '_'

theorem isAscii_of_isBoundChar (h : isBoundChar c) : Text.Case.isAscii c := by
  simp only [isBoundChar, Bool.or_eq_true, decide_eq_true_eq, or_assoc] at h
  rcases h with h | rfl | rfl | rfl | rfl | rfl
  · exact Text.Case.isAscii_of_isAlphanum h
  all_goals decide

theorem isPlain_of_isBoundChar (h : isBoundChar c) :
    Token.isPlain c ∧ c ≠ ',' ∧ c ≠ ')' ∧ Operator.isSymbolChar c = false :=
  Text.Case.forall_isAscii
    (p := fun c => isBoundChar c →
      Token.isPlain c ∧ c ≠ ',' ∧ c ≠ ')' ∧ Operator.isSymbolChar c = false)
    (by decide +kernel) (isAscii_of_isBoundChar h) h

theorem IsUpper.isPlain (h : IsUpper cs) : ∀ c ∈ cs, Token.isPlain c := fun c hc =>
  (isPlain_of_isBoundChar (h.chars c hc)).1

/-- A bound is not cut at a comma. -/
theorem IsUpper.passes_cuts (h : IsUpper cs) : Scan.Passes (Scan.cuts ',') 0 cs := by
  apply Scan.passes_of_isNeutral
  · intro c hc
    exact (Token.isPlain_iff.mp (h.isPlain c hc)).2
  · intro s _ c hc
    exact Scan.cuts_of_ne s (isPlain_of_isBoundChar (h.chars c hc)).2.1

/-- No character of a bound ends the word. -/
theorem IsUpper.passes_stopsAt (h : IsUpper cs) (depth : Int) :
    Scan.Passes Token.stopsAt depth cs := by
  apply Scan.passes_of_isNeutral
  · intro c hc
    exact (Token.isPlain_iff.mp (h.isPlain c hc)).2
  · intro s _ c hc
    exact Token.stopsAt_of_isPlain s (h.isPlain c hc)

/-- The text of a range. -/
def text (a b : List Char) : List Char :=
  a ++ '.' :: '.' :: b

theorem isBoundChar_of_mem_text (ha : IsUpper a) (hb : IsUpper b) :
    ∀ c ∈ text a b, isBoundChar c := by
  intro c hc
  simp only [text, List.mem_append, List.mem_cons] at hc
  rcases hc with hc | rfl | rfl | hc
  · exact ha.chars c hc
  · decide
  · decide
  · exact hb.chars c hc

/-- The first pair of points is the one between the bounds. -/
theorem splitRange?_text (b : List Char) (hpair : ¬['.', '.'] <:+: a)
    (hlast : a.getLast? ≠ some '.') : FilterClause.splitRange? (text a b) = some (a, b) := by
  induction a with
  | nil => rfl
  | cons c a ih =>
      have hpair' : ¬['.', '.'] <:+: a := by
        intro h
        exact hpair (h.trans (List.suffix_cons c a).isInfix)
      have hlast' : a.getLast? ≠ some '.' := by
        intro h
        apply hlast
        rw [List.getLast?_cons, h]
        rfl
      -- A point at the end of `a` or a second one behind it would make an earlier pair.
      have hnext : ∀ cs, c = '.' → text a b = '.' :: cs → False := by
        rintro cs rfl hnext
        cases a with
        | nil => exact hlast rfl
        | cons d a =>
            obtain ⟨rfl, -⟩ := List.cons.inj hnext
            exact hpair ⟨[], a, rfl⟩
      have htext : text (c :: a) b = c :: text a b := rfl
      rw [htext, FilterClause.splitRange?.eq_3 _ _ hnext, ih hpair' hlast']
      rfl

/-- What stands in front of the first colon of a range is no name of an operator: it is empty, or it
begins with the lower bound, or it holds the points. -/
theorem namesNothing_text (ha : IsLower a) (hb : IsUpper b) :
    FilterClause.NamesNothing (Scan.partition ':' (text a b)).1 := by
  have hneutral : ∀ c ∈ text a b, Scan.isNeutral c := by
    intro c hc
    have hplain := (isPlain_of_isBoundChar (isBoundChar_of_mem_text ha.toIsUpper hb c hc)).1
    exact (Token.isPlain_iff.mp hplain).2
  rw [Scan.partition_of_isNeutral (by decide) hneutral]
  by_cases hcolon : ':' ∈ a
  · obtain ⟨c, cs, rfl⟩ := List.exists_cons_of_ne_nil ha.nonempty
    obtain ⟨hletter, hunder⟩ := ha.first hcolon c rfl
    by_cases hc : c = ':'
    · have hnothing : (text (c :: cs) b).takeWhile (· ≠ ':') = [] := by
        simp [text, hc]
      rw [hnothing]
      exact FilterClause.namesNothing_nil
    · have hmem : c ∈ (text (c :: cs) b).takeWhile (· ≠ ':') := by
        simp [text, hc]
      have hascii := isAscii_of_isBoundChar (ha.chars c List.mem_cons_self)
      exact FilterClause.namesNothing_of_mem hmem hascii hletter hunder
  · have hne : ∀ c ∈ a, decide (c ≠ ':') = true := by
      intro c hc
      apply decide_eq_true
      rintro rfl
      exact hcolon hc
    have hmem : '.' ∈ (text a b).takeWhile (· ≠ ':') := by
      rw [text, List.takeWhile_append_of_pos hne]
      simp
    exact FilterClause.namesNothing_of_mem hmem (by decide) (by decide) (by decide)

end Range

open Range (IsUpper IsLower)

/-! ## The two spellings of a range -/

variable {kind : EntityKind} {type : FieldType} {name : String} {a b : List Char} {position : Nat}

theorem Operator.isNamed_between : Relation.between.holds.IsNamed "between" where
  letters := by decide
  lookup := by decide +kernel
  takesOperand := by decide

namespace FilterClause

/-- Both spellings ask for the values between the bounds. -/
def between? (a b : List Char) : Option (Operator × Value) := do
  let low ← (Literal.readScalar a 0).toOption
  let high ← (Literal.readScalar b 0).toOption
  return (Relation.between.holds, .list [low, high])

theorem toOption_readOperand_text (field : String) (ha : IsLower a) (hb : IsUpper b) :
    (readOperand field ⟨Relation.equal.holds, some (Range.text a b), position⟩).toOption =
      between? a b := by
  obtain ⟨c, cs, hcs⟩ := List.exists_cons_of_ne_nil ha.nonempty
  have hplain := ha.isPlain c (by simp [hcs])
  simp only [Token.isPlain, Bool.and_eq_true, Bool.not_eq_true', decide_eq_true_eq] at hplain
  obtain ⟨⟨⟨⟨-, hdouble⟩, hsingle⟩, hopen⟩, -⟩ := hplain
  have hlist : (Range.text a b).head? ≠ some '[' := by
    rw [hcs]
    simpa [Range.text] using hopen
  have hquote : Literal.openingQuote? (Range.text a b) = none := by
    rw [hcs]
    simp [Range.text, Literal.openingQuote?, hdouble, hsingle]
  have hrange := Range.splitRange?_text b ha.noPair ha.last
  have hlow : a.isEmpty = false := by simpa using ha.nonempty
  have hhigh : b.isEmpty = false := by simpa using hb.nonempty
  have hreadRange : (readRange (Range.text a b) a b position).toOption = between? a b := by
    rw [readRange, hlow, hhigh, Bool.or_false, if_neg Bool.false_ne_true, toOption_bind,
      Literal.toOption_readScalar a position 0]
    refine congrArg (Option.bind _) (funext fun low => ?_)
    rw [toOption_bind, Literal.toOption_readScalar b _ 0]
    rfl
  rw [← hreadRange]
  unfold readOperand
  dsimp only
  rw [if_neg (by decide), if_neg hlist, if_pos ⟨rfl, by rw [hquote]; rfl⟩, hrange]

/-- A bound is read as it stands in a list. -/
theorem readElements_cons_of_isUpper (h : IsUpper a) (elements : List (List Char))
    (raw : List Char) (start position : Nat) :
    Literal.readElements raw start position (a :: elements) = (do
      let value ← Literal.readScalar a position
      let values ← Literal.readElements raw start (position + a.length + 1) elements
      return value :: values) := by
  have hblank : ∀ c ∈ a, Text.isBlank c = false := fun c hc =>
    (Token.isPlain_iff.mp (h.isPlain c hc)).1
  have htrim : Text.trimChars ([] ++ a ++ []) = a := by
    apply Text.trimChars_append (by simp) (by simp)
    · exact fun c hc => hblank c (List.mem_of_mem_head? hc)
    · exact fun c hc => hblank c (List.mem_of_getLast? hc)
    · exact h.nonempty
  rw [List.nil_append, List.append_nil] at htrim
  have hopen : '[' ∉ a := fun hmem => absurd (h.isPlain _ hmem) (by decide)
  have hclose : ']' ∉ a := fun hmem => absurd (h.isPlain _ hmem) (by decide)
  rw [Literal.readElements_cons, htrim]
  all_goals rw [htrim]
  · exact h.nonempty
  · exact hopen
  · exact hclose

theorem toOption_readOperand_bracketed (field : String) (ha : IsUpper a) (hb : IsUpper b) :
    (readOperand field ⟨Relation.between.holds, some (bracketed [a, b]), position⟩).toOption =
      between? a b := by
  have hparts : ∀ part ∈ [a, b], Scan.Passes (Scan.cuts ',') 0 part :=
    List.forall_mem_cons.mpr ⟨ha.passes_cuts, List.forall_mem_singleton.mpr hb.passes_cuts⟩
  rw [readOperand_list field (by decide), Literal.readList_bracketed _ _ (by simp) hparts,
    readElements_cons_of_isUpper ha, readElements_cons_of_isUpper hb]
  unfold between?
  rw [← Literal.toOption_readScalar a (position + 1),
    ← Literal.toOption_readScalar b (position + 1 + a.length + 1)]
  cases Literal.readScalar a (position + 1) with
  | error e => rfl
  | ok low =>
      cases Literal.readScalar b (position + 1 + a.length + 1) with
      | error e => rfl
      | ok high => rfl

/-- The filters of both spellings are read alike, but for what is reported of faults. -/
theorem toOption_ofToken_range (t t' : Token) (hname : Field.IsWritten kind type name)
    (ha : IsLower a) (hb : IsUpper b)
    (ht : t.text.toList = name.toList ++ ':' :: Range.text a b)
    (ht' : t'.text.toList =
      name.toList ++ ':' :: ("between".toList ++ ':' :: bracketed [a, b])) :
    (ofToken kind t).toOption = (ofToken kind t').toOption := by
  have hne : Range.text a b ≠ [] := by simp [Range.text]
  have hsymbol : ∀ c, (Range.text a b).head? = some c → Operator.isSymbolChar c = false := by
    intro c hc
    have hmem := List.mem_of_mem_head? hc
    exact (Range.isPlain_of_isBoundChar
      (Range.isBoundChar_of_mem_text ha.toIsUpper hb c hmem)).2.2.2
  rw [ofToken_of_isWritten hname ht, ofToken_of_isWritten hname ht',
    splitOperator_of_namesNothing hne hsymbol (Range.namesNothing_text ha hb),
    splitOperator_of_isNamed Operator.isNamed_between (Literal.bracketed_ne_nil _), ok_bind,
    ok_bind, toOption_bind, toOption_bind, toOption_readOperand_text _ ha hb,
    toOption_readOperand_bracketed _ ha.toIsUpper hb]
  refine congrArg (Option.bind _) (funext fun p => ?_)
  by_cases hadmits : p.1.relation.admits type
  · simp only [if_pos hadmits]
    rw [toOption_bind, toOption_bind, toOption_checkOperand _ _ _ _ t t']
  · simp only [if_neg hadmits]
    rfl

end FilterClause

namespace Query

theorem ofQuery_text {query : String} (hname : Field.IsWritten kind type name) (ha : IsLower a)
    (hb : IsUpper b) (hquery : query.toList = name.toList ++ ':' :: Range.text a b) :
    Token.ofQuery query = .ok [⟨.fieldExpr, query, 0⟩] := by
  have hchars := Range.isBoundChar_of_mem_text ha.toIsUpper hb
  have hplain : ∀ c ∈ Range.text a b, Token.isPlain c := fun c hc =>
    (Range.isPlain_of_isBoundChar (hchars c hc)).1
  apply Token.ofQuery_of_isFieldName hname.isName hquery
  · exact Token.avoids_of_isPlain _ hplain
  · rw [Token.run_of_isPlain rfl hplain]
    rfl
  · intro hlast
    rw [List.getLast?_cons] at hlast
    obtain ⟨c, hc⟩ : ∃ c, (Range.text a b).getLast? = some c := by
      have hne : Range.text a b ≠ [] := by simp [Range.text]
      exact ⟨_, List.getLast?_eq_some_getLast hne⟩
    rw [hc] at hlast
    have hmem := hchars c (List.mem_of_getLast? hc)
    exact (Range.isPlain_of_isBoundChar hmem).2.2.1 (Option.some.inj hlast)

/-- A range is read whenever the list of its bounds is behind the operator that it stands for, and
as the same filter. -/
theorem range_reads_as_between (kind : EntityKind) (type : FieldType) (name a b : String)
    (hname : Field.IsWritten kind type name) (ha : IsLower a.toList) (hb : IsUpper b.toList) :
    ((∃ q, read kind (filterText name "" (a ++ ".." ++ b)) = .ok q) ↔
      ∃ q, read kind (filterText name "between:" ("[" ++ a ++ "," ++ b ++ "]")) = .ok q) ∧
    ∀ q, read kind (filterText name "" (a ++ ".." ++ b)) = .ok q →
      ∃ c, ReadsAs kind (filterText name "" (a ++ ".." ++ b)) c ∧
        ReadsAs kind (filterText name "between:" ("[" ++ a ++ "," ++ b ++ "]")) c := by
  have hrange : (filterText name "" (a ++ ".." ++ b)).toList =
      name.toList ++ ':' :: Range.text a.toList b.toList := by
    rw [toList_filterText]
    simp [Range.text]
  have hspelling : filterText name "between:" ("[" ++ a ++ "," ++ b ++ "]") =
      filterText name ("between" ++ ":") (String.ofList (bracketed [a.toList, b.toList])) := by
    rw [← String.toList_inj, toList_filterText, toList_filterText]
    simp [bracketed]
  have hlist : (filterText name "between:" ("[" ++ a ++ "," ++ b ++ "]")).toList =
      name.toList ++ ':' :: ("between".toList ++ ':' :: bracketed [a.toList, b.toList]) := by
    rw [hspelling, toList_filterText]
    simp
  have hparts : ∀ part ∈ [a.toList, b.toList], Scan.Passes Token.stopsAt 1 part :=
    List.forall_mem_cons.mpr
      ⟨ha.passes_stopsAt 1, List.forall_mem_singleton.mpr (hb.passes_stopsAt 1)⟩
  have htoken := ofQuery_text hname ha hb hrange
  have htoken' := ofQuery_bracketed hname Operator.isNamed_between hparts
  rw [← hspelling] at htoken'
  have hsame : ∀ c, ReadsAs kind (filterText name "" (a ++ ".." ++ b)) c ↔
      ReadsAs kind (filterText name "between:" ("[" ++ a ++ "," ++ b ++ "]")) c := by
    intro c
    rw [readsAs_iff_ofToken htoken rfl, readsAs_iff_ofToken htoken' rfl,
      FilterClause.toOption_ofToken_range
        ⟨.fieldExpr, filterText name "" (a ++ ".." ++ b), 0⟩
        ⟨.fieldExpr, filterText name "between:" ("[" ++ a ++ "," ++ b ++ "]"), 0⟩
        hname ha hb hrange hlist]
  have hreads : ∀ q, read kind (filterText name "" (a ++ ".." ++ b)) = .ok q →
      ∃ c, ReadsAs kind (filterText name "" (a ++ ".." ++ b)) c :=
    fun q hq => exists_readsAs htoken rfl hq
  constructor
  · constructor
    · rintro ⟨q, hq⟩
      obtain ⟨c, hc⟩ := hreads q hq
      exact ⟨_, (hsame c).mp hc⟩
    · rintro ⟨q, hq⟩
      obtain ⟨c, hc⟩ := exists_readsAs htoken' rfl hq
      exact ⟨_, (hsame c).mpr hc⟩
  · intro q hq
    obtain ⟨c, hc⟩ := hreads q hq
    exact ⟨c, hc, (hsame c).mp hc⟩

theorem range_reads_as_between_created :
    Field.IsWritten .issue .date "created" ∧ IsLower "2024-01-01T10:00".toList ∧
    IsUpper "2024-02-01".toList ∧
    ∃ c, ReadsAs .issue "created:2024-01-01T10:00..2024-02-01" c ∧
      ReadsAs .issue "created:between:[2024-01-01T10:00,2024-02-01]" c := by
  have htype : Field.type? .issue "created" = some .date := by decide
  obtain ⟨hname, -⟩ := Field.isWritten_of_type? htype
  have hfirst : ':' ∈ "2024-01-01T10:00".toList →
      ∀ c, "2024-01-01T10:00".toList.head? = some c → ¬c.isAlpha ∧ c ≠ '_' := by
    intro _ c hc
    obtain rfl : '2' = c := Option.some.inj hc
    decide
  have hlower : IsLower "2024-01-01T10:00".toList :=
    ⟨⟨by decide, List.all_eq_true.mp (by decide), by decide⟩, by decide, hfirst⟩
  have hupper : IsUpper "2024-02-01".toList :=
    ⟨by decide, List.all_eq_true.mp (by decide), by decide⟩
  have hchars : "created:2024-01-01T10:00..2024-02-01".toList =
      "created".toList ++ ':' :: Range.text "2024-01-01T10:00".toList "2024-02-01".toList := rfl
  have hclause : (FilterClause.ofToken .issue
      ⟨.fieldExpr, "created:2024-01-01T10:00..2024-02-01", 0⟩).toOption.isSome := by
    decide +kernel
  obtain ⟨c, hc⟩ := Option.isSome_iff_exists.mp hclause
  rw [← readsAs_iff_ofToken (ofQuery_text hname hlower hupper hchars) rfl] at hc
  exact ⟨hname, hlower, hupper, (range_reads_as_between .issue .date "created"
    "2024-01-01T10:00" "2024-02-01" hname hlower hupper).2 _ hc⟩

end Query

end IssueQuery
