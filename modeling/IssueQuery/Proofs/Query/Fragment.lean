import IssueQuery.Proofs.Query.Placement
import IssueQuery.Proofs.Query.WellFormed

/-!
# What the errors of a query show

Every error shows what stands at its position, with one exception.  An element of a list is read
without the blanks around it and a word without the stars around it, but at the position where the
blanks or stars begin.  So a literal that cannot be read may stand further on than its error tells.
All other steps count each character that they consume: the name of a field, the signs and the
colons of an operator, the elements of a list and the bounds of a range.
-/

namespace IssueQuery

open Outcome

variable {cs : List Char}

/-! ## Literals -/

/-- What is cut off in front and what is left between. -/
theorem skipped_append_trimmed (p : Char → Bool) (part : List Char) :
    part.takeWhile p ++ ((part.dropWhile p).reverse.dropWhile p).reverse <+: part := by
  have hbetween : ((part.dropWhile p).reverse.dropWhile p).reverse <+: part.dropWhile p :=
    List.rdropWhile_prefix p (part.dropWhile p)
  have hpart : part.takeWhile p ++ part.dropWhile p = part := List.takeWhile_append_dropWhile
  have happended := (List.prefix_append_right_inj (part.takeWhile p)).mpr hbetween
  rwa [hpart] at happended

/-- The parts of a text, with the separator between them, give the text back. -/
theorem Scan.intercalate_splitFrom (s : Scan) (separator : Char) (limit : Option Nat)
    (part : List Char) :
    List.intercalate [separator] (s.splitFrom separator limit part) = part := by
  induction part generalizing s limit with
  | nil => rfl
  | cons c part ih =>
      rw [splitFrom]
      split
      · rename_i hcut
        have hc : c = separator := by
          simp only [cutsAt, Bool.and_eq_true, decide_eq_true_eq] at hcut
          exact hcut.1.2
        obtain ⟨first, parts, hparts⟩ := List.exists_cons_of_ne_nil
          (splitFrom_ne_nil (s.step c) separator (limit.map (· - 1)) part)
        have hrest := ih (s.step c) (limit.map (· - 1))
        rw [hparts] at hrest ⊢
        rw [List.intercalate_cons_cons, hrest, hc]
        rfl
      · obtain ⟨first, parts, hparts⟩ := List.exists_cons_of_ne_nil
          (splitFrom_ne_nil (s.step c) separator limit part)
        have hrest := ih (s.step c) limit
        rw [hparts] at hrest ⊢
        cases parts with
        | nil => simpa using hrest
        | cons second parts =>
            rw [List.intercalate_cons_cons] at hrest
            dsimp only
            rw [List.intercalate_cons_cons, List.cons_append, List.cons_append, hrest]

theorem Scan.append_of_partition {separator : Char} {part before : List Char}
    {behind : Option (List Char)} (h : Scan.partition separator part = (before, behind)) :
    before ++ (behind.map (separator :: ·)).getD [] = part := by
  unfold Scan.partition at h
  split at h
  · rename_i before' behind' hsplit
    cases h
    have hjoined := Scan.intercalate_splitFrom .start separator (some 1) part
    rw [Scan.split] at hsplit
    rw [hsplit, List.intercalate_cons_cons, List.intercalate_singleton,
      List.append_assoc] at hjoined
    exact hjoined
  · cases h
    exact List.append_nil _

/-- The first part stands where the text stands, and the other parts one character behind it. -/
theorem StandsAt.intercalate {separator : Char} {part : List Char} {parts : List (List Char)}
    {position : Nat} (h : StandsAt (List.intercalate [separator] (part :: parts)) cs position) :
    StandsAt part cs position ∧
      StandsAt (List.intercalate [separator] parts) cs (position + part.length + 1) := by
  cases parts with
  | nil =>
      rw [List.intercalate_singleton] at h
      exact ⟨h, StandsAt.nil cs _⟩
  | cons second parts =>
      rw [List.intercalate_cons_cons, List.append_assoc] at h
      exact ⟨h.shorten (List.prefix_append _ _), h.behind.behind⟩

namespace Literal

/-- A literal is placed, whatever was skipped in front of it. -/
theorem locates_readScalar {skipped raw : List Char} {position : Nat}
    (hraw : StandsAt (skipped ++ raw) cs position)
    (hskipped : skipped.all Text.isBlank ∨ skipped.all (· = '*')) :
    Locates cs (readScalar raw position) fun _ => True := by
  have hfault : ∀ fault, fault = .malformedString ∨ fault = .partialQuotes →
      Locates cs (SyntaxError.near fault (String.ofList raw) position : Except SyntaxError Value)
        fun _ => True := by
    intro fault hfault fragment position' hfragment hposition
    obtain rfl := Option.some.inj hfragment
    obtain rfl := Option.some.inj hposition
    refine Or.inr ⟨hfault, skipped, hskipped, ?_⟩
    rwa [String.toList_ofList]
  unfold readScalar
  split
  · split
    · exact hfault _ (Or.inl rfl)
    · exact locates_ok trivial
  · split
    · exact hfault _ (Or.inr rfl)
    · split
      · exact locates_ok trivial
      · exact locates_ok trivial

theorem locates_readScalar_of_standsAt {raw : List Char} {position : Nat}
    (hraw : StandsAt raw cs position) : Locates cs (readScalar raw position) fun _ => True := by
  have hnothing : StandsAt ([] ++ raw) cs position := hraw
  exact locates_readScalar hnothing (Or.inl rfl)

theorem locates_readElements {raw : List Char} {start position : Nat} {elements : List (List Char)}
    (hraw : StandsAt raw cs start)
    (helements : StandsAt (List.intercalate [','] elements) cs position) :
    Locates cs (readElements raw start position elements) fun _ => True := by
  induction elements generalizing position with
  | nil => exact locates_ok trivial
  | cons element elements ih =>
      obtain ⟨helement, hrest⟩ := helements.intercalate
      rw [readElements]
      split
      · exact locates_near (isFound_ofList hraw)
      · split
        · exact locates_near (isFound_ofList hraw)
        · have hstripped := helement.shorten (skipped_append_trimmed Text.isBlank element)
          have hblank : (element.takeWhile Text.isBlank).all Text.isBlank := List.all_takeWhile
          apply (locates_readScalar hstripped (Or.inl hblank)).bind
          intro value _
          apply (ih hrest).bind
          intro values _
          exact locates_ok trivial

theorem locates_readList {operator : Operator} {raw : List Char} {position : Nat}
    (hraw : StandsAt raw cs position) :
    Locates cs (readList operator raw position) fun _ => True := by
  have hinside : StandsAt (inside raw) cs (position + 1) :=
    (hraw.drop 1).shorten (List.dropLast_prefix _)
  rw [← Scan.intercalate_splitFrom .start ',' none (inside raw)] at hinside
  unfold readList
  split
  · exact locates_near (isFound_ofList hraw)
  · apply (locates_readElements hraw hinside).bind
    intro values _
    split
    · exact locates_near (isFound_ofList hraw)
    · exact locates_ok trivial

end Literal

/-! ## Filters -/

namespace FilterClause

/-- The text of an operand stands at its position. -/
def Split.IsPlaced (cs : List Char) (s : Split) : Prop :=
  ∀ raw, s.raw = some raw → StandsAt raw cs s.position

theorem isPlaced_split {operator : Operator} {raw : List Char} {position : Nat}
    (h : StandsAt raw cs position) : Split.IsPlaced cs ⟨operator, some raw, position⟩ := by
  intro raw' hraw'
  obtain rfl := Option.some.inj hraw'
  exact h

theorem locates_splitSymbol {symbol rest : List Char} {position : Nat}
    (h : StandsAt (symbol ++ rest) cs position) :
    Locates cs (splitSymbol symbol rest position) (Split.IsPlaced cs) := by
  have hsymbol := h.shorten (List.prefix_append symbol rest)
  have hrest := h.behind
  unfold splitSymbol
  split
  · exact locates_near (isFound_ofList hsymbol)
  · split
    rename_i raw skipped hsplit
    have hraw : StandsAt raw cs (position + skipped) := by
      split at hsplit
      · cases hsplit
        exact hrest.drop 1
      · cases hsplit
        exact hrest
    split
    · exact locates_near (isFound_ofList hsymbol)
    · exact locates_ok (isPlaced_split hraw)

theorem locates_splitName {rest : List Char} {position : Nat} (h : StandsAt rest cs position) :
    Locates cs (splitName rest position) (Split.IsPlaced cs) := by
  unfold splitName
  split
  rename_i head behind hpartition
  have happend := Scan.append_of_partition hpartition
  have hhead : StandsAt head cs position := h.shorten ⟨_, happend⟩
  have hequal : Split.IsPlaced cs ⟨Relation.equal.holds, some rest, position⟩ := isPlaced_split h
  dsimp only
  split
  · rename_i raw operator _
    have hraw : StandsAt raw cs (position + head.length + 1) := by
      rw [← happend] at h
      exact h.behind.drop 1
    split
    · exact locates_near (isFound_ofList h)
    · split
      · exact locates_near (isFound_ofList hhead)
      · exact locates_ok (isPlaced_split hraw)
  · split
    · exact locates_near (isFound_ofList hhead)
    · exact locates_ok hequal
  · split
    · intro raw hraw
      cases hraw
    · exact locates_ok hequal
  · exact locates_ok hequal

theorem locates_splitOperator {rest : List Char} {position : Nat} (h : StandsAt rest cs position) :
    Locates cs (splitOperator rest position) (Split.IsPlaced cs) := by
  unfold splitOperator
  dsimp only
  split
  · exact locates_near (Or.inl (StandsAt.nil cs position))
  · split
    · exact locates_splitName h
    · apply locates_splitSymbol
      rwa [List.takeWhile_append_dropWhile]

/-! ## Operands -/

theorem append_of_splitRange? {raw low high : List Char} (h : splitRange? raw = some (low, high)) :
    low ++ '.' :: '.' :: high = raw := by
  induction raw using splitRange?.induct generalizing low with
  | case1 => cases h
  | case2 raw =>
      cases h
      rfl
  | case3 c raw hpoints ih =>
      rw [splitRange?.eq_3 c raw hpoints] at h
      obtain ⟨⟨low', high'⟩, hrest, hcons⟩ := Option.map_eq_some_iff.mp h
      cases hcons
      rw [List.cons_append, ih hrest]

theorem locates_readRange {raw low high : List Char} {position : Nat}
    (h : StandsAt raw cs position) (hsplit : splitRange? raw = some (low, high)) :
    Locates cs (readRange raw low high position) fun _ => True := by
  have happend := append_of_splitRange? hsplit
  have hlow : StandsAt low cs position := h.shorten ⟨_, happend⟩
  have hhigh : StandsAt high cs (position + low.length + 2) := by
    rw [← happend] at h
    exact h.behind.drop 2
  unfold readRange
  split
  · exact locates_near (isFound_ofList h)
  · apply (Literal.locates_readScalar_of_standsAt hlow).bind
    intro a _
    apply (Literal.locates_readScalar_of_standsAt hhigh).bind
    intro b _
    exact locates_ok trivial

theorem locates_readWildcard {field : String} {raw : List Char} {position : Nat}
    (h : StandsAt raw cs position) :
    Locates cs (readWildcard field raw position) fun _ => True := by
  have hinner : StandsAt (raw.takeWhile (· = '*') ++ stripStars raw) cs position :=
    h.shorten (skipped_append_trimmed (· = '*') raw)
  have hstars : (raw.takeWhile (· = '*')).all (· = '*') := List.all_takeWhile
  unfold readWildcard
  split
  · split
    · exact locates_ok trivial
    · exact locates_ok trivial
  · dsimp only
    split
    · exact locates_near (isFound_ofList h)
    · apply (Literal.locates_readScalar hinner (Or.inr hstars)).bind
      intro v _
      exact locates_ok trivial

theorem locates_readOperand {field : String} {s : Split} (h : s.IsPlaced cs) :
    Locates cs (readOperand field s) fun _ => True := by
  unfold readOperand
  split
  · exact locates_ok trivial
  · rename_i raw hraw
    have hplaced := h raw hraw
    have hscalar := Literal.locates_readScalar_of_standsAt hplaced
    split
    · exact (Literal.locates_readList hplaced).bind fun values _ => locates_ok trivial
    · split
      · exact locates_near (isFound_ofList hplaced)
      · split
        · split
          · rename_i low high hrange
            exact locates_readRange hplaced hrange
          · split
            · exact locates_readWildcard hplaced
            · exact hscalar.bind fun v _ => locates_ok trivial
        · exact hscalar.bind fun v _ => locates_ok trivial

theorem locates_checkOperand {field : String} {type : FieldType} {operator : Operator}
    {operand : Value} {token : Token} (h : token.IsPlaced cs) :
    Locates cs (checkOperand field type operator operand token) fun _ => True := by
  unfold checkOperand
  dsimp only
  split
  · exact locates_near h.found
  · split
    · exact locates_near h.found
    · split
      · split
        · split
          · exact locates_ok trivial
          · exact locates_near h.found
        · exact locates_near h.found
      · exact locates_ok trivial

theorem locates_ofToken {kind : EntityKind} {token : Token} (h : token.IsPlaced cs)
    (hkind : token.kind = .fieldExpr) : Locates cs (ofToken kind token) fun _ => True := by
  have htext := h.exact hkind
  unfold ofToken
  dsimp only
  generalize hname : token.text.toList.takeWhile (· ≠ ':') = name
  have hname : StandsAt name cs token.position := by
    rw [← hname]
    exact htext.shorten (List.takeWhile_prefix _)
  have hrest := htext.drop (name.length + 1)
  rw [← Nat.add_assoc] at hrest
  apply (locates_splitOperator hrest).bind
  intro split hsplit
  split
  · exact locates_near (isFound_ofList hname)
  · apply (locates_readOperand hsplit).bind
    rintro ⟨operator, operand⟩ -
    dsimp only
    split
    · apply (locates_checkOperand h).bind
      intro v _
      exact locates_ok trivial
    · exact locates_near h.found

end FilterClause

namespace Query

/-- The words that wait for a filter are those of the text. -/
structure FilterState.IsPlaced (cs : List Char) (s : FilterState) : Prop where
  joiner : ∀ token, s.joiner = some token → token.IsPlaced cs
  negation : ∀ token, s.negation = some token → token.IsPlaced cs

variable {kind : EntityKind} {s : FilterState} {token : Token} {tokens : List Token}

theorem isPlaced_of_nothing_waits (hjoiner : s.joiner = none) (hnegation : s.negation = none) :
    s.IsPlaced cs := by
  refine ⟨?_, ?_⟩
  · intro token htoken
    rw [hjoiner] at htoken
    cases htoken
  · intro token htoken
    rw [hnegation] at htoken
    cases htoken

theorem locates_agreedLogic (hs : s.IsPlaced cs) (h : token.IsPlaced cs) :
    Locates cs (agreedLogic s token) fun _ => True := by
  unfold agreedLogic
  split
  · exact locates_ok trivial
  · dsimp only
    split
    · exact locates_ok trivial
    · split
      · exact locates_ok trivial
      · cases hjoiner : s.joiner with
        | none => exact locates_near h.found
        | some joiner => exact locates_near (hs.joiner joiner hjoiner).found

theorem locates_addFilter (hs : s.IsPlaced cs) (h : token.IsPlaced cs)
    (hkind : token.kind = .fieldExpr) :
    Locates cs (s.addFilter kind token) (FilterState.IsPlaced cs) := by
  unfold FilterState.addFilter
  apply (locates_agreedLogic hs h).bind
  intro logic _
  apply (FilterClause.locates_ofToken h hkind).bind
  intro clause _
  exact locates_ok (isPlaced_of_nothing_waits rfl rfl)

theorem locates_addNegation (hs : s.IsPlaced cs) (h : token.IsPlaced cs) :
    Locates cs (s.addNegation token) (FilterState.IsPlaced cs) := by
  unfold FilterState.addNegation
  split
  · exact locates_near h.found
  · refine locates_ok ⟨hs.joiner, ?_⟩
    intro token' htoken
    obtain rfl := Option.some.inj htoken
    exact h

theorem locates_addJoiner (hs : s.IsPlaced cs) (h : token.IsPlaced cs) :
    Locates cs (s.addJoiner token) (FilterState.IsPlaced cs) := by
  unfold FilterState.addJoiner
  split
  · exact locates_near h.found
  · refine locates_ok ⟨?_, hs.negation⟩
    intro token' htoken
    obtain rfl := Option.some.inj htoken
    exact h

theorem locates_checkDone (hs : s.IsPlaced cs) : Locates cs s.checkDone fun _ => True := by
  unfold FilterState.checkDone
  split
  · rename_i token htoken
    rcases Option.or_eq_some_iff.mp htoken with hjoiner | ⟨-, hnegation⟩
    · exact locates_near (hs.joiner token hjoiner).found
    · exact locates_near (hs.negation token hnegation).found
  · exact locates_ok trivial

theorem locates_strayToken {α : Type} {post : α → Prop} (h : token.IsPlaced cs) :
    Locates cs (strayToken token) post := by
  unfold strayToken
  split
  · exact locates_near h.found
  · exact locates_near h.found

theorem locates_readFilters (hs : s.IsPlaced cs) (h : ∀ token ∈ tokens, token.IsPlaced cs) :
    Locates cs (readFilters kind s tokens) fun p => ∀ token ∈ p.2, token.IsPlaced cs := by
  induction tokens generalizing s with
  | nil =>
      apply (locates_checkDone hs).bind
      intro _ _
      exact locates_ok (List.forall_mem_nil _)
  | cons token tokens ih =>
      obtain ⟨htoken, htokens⟩ := List.forall_mem_cons.mp h
      rw [readFilters]
      split
      · rename_i hkind
        exact (locates_addFilter hs htoken hkind).bind fun s' hs' => ih hs' htokens
      · exact (locates_addNegation hs htoken).bind fun s' hs' => ih hs' htokens
      · exact (locates_addJoiner hs htoken).bind fun s' hs' => ih hs' htokens
      · exact (locates_addJoiner hs htoken).bind fun s' hs' => ih hs' htokens
      · apply (locates_checkDone hs).bind
        intro _ _
        exact locates_ok h
      · exact locates_strayToken htoken

/-! ## Clauses -/

theorem locates_readBy (h : token.IsPlaced cs) (htokens : ∀ token ∈ tokens, token.IsPlaced cs) :
    Locates cs (readBy token tokens) fun rest => ∀ token ∈ rest, token.IsPlaced cs := by
  unfold readBy
  split
  · exact locates_ok (List.forall_mem_cons.mp htokens).2
  · exact locates_near h.found

theorem locates_readField {clause : ClauseKind} (htokens : ∀ token ∈ tokens, token.IsPlaced cs) :
    Locates cs (readField kind clause tokens) fun p => ∀ token ∈ p.2, token.IsPlaced cs := by
  unfold readField
  split
  · intro fragment position _ hposition
    cases hposition
  · obtain ⟨htoken, hrest⟩ := List.forall_mem_cons.mp htokens
    split
    · dsimp only
      split
      · exact locates_ok hrest
      · exact locates_near htoken.found
    · exact locates_near htoken.found

theorem isPlaced_of_readDirection (htokens : ∀ token ∈ tokens, token.IsPlaced cs) :
    ∀ token ∈ (readDirection tokens).2, token.IsPlaced cs := by
  unfold readDirection
  split
  · split
    · exact (List.forall_mem_cons.mp htokens).2
    · exact htokens
  · exact htokens

theorem locates_readLimit (h : token.IsPlaced cs) (htokens : ∀ token ∈ tokens, token.IsPlaced cs) :
    Locates cs (readLimit token tokens) fun p => ∀ token ∈ p.2, token.IsPlaced cs := by
  unfold readLimit
  split
  · obtain ⟨hnumber, hrest⟩ := List.forall_mem_cons.mp htokens
    split
    · split
      · exact locates_ok hrest
      · exact locates_near hnumber.found
    · exact locates_near h.found
  · exact locates_near h.found

theorem locates_readClause {t : Trailer} {clause : ClauseKind} (h : token.IsPlaced cs)
    (htokens : ∀ token ∈ tokens, token.IsPlaced cs) :
    Locates cs (readClause kind t clause token tokens) fun p =>
      ∀ token ∈ p.2, token.IsPlaced cs := by
  unfold readClause
  split
  · exact locates_near h.found
  · cases clause with
    | order =>
        apply (locates_readBy h htokens).bind
        intro rest hrest
        apply (locates_readField hrest).bind
        intro p hp
        exact locates_ok (isPlaced_of_readDirection hp)
    | group =>
        apply (locates_readBy h htokens).bind
        intro rest hrest
        apply (locates_readField hrest).bind
        intro p hp
        exact locates_ok hp
    | limit =>
        apply (locates_readLimit h htokens).bind
        intro p hp
        exact locates_ok hp

theorem locates_readTrailer {t : Trailer} (htokens : ∀ token ∈ tokens, token.IsPlaced cs) :
    Locates cs (readTrailer kind t tokens) fun _ => True := by
  -- A clause takes several tokens at once, so the induction is on their number.
  induction hlength : tokens.length using Nat.strong_induction_on generalizing t tokens with
  | _ n ih =>
      cases tokens with
      | nil =>
          rw [readTrailer_nil]
          exact locates_ok trivial
      | cons token tokens =>
          obtain ⟨htoken, hrest⟩ := List.forall_mem_cons.mp htokens
          by_cases hclause : ∃ k, token.kind = .clause k
          · obtain ⟨k, hkind⟩ := hclause
            rw [readTrailer_clause hkind]
            have hread : Locates cs (readClause kind t k token tokens) fun p =>
                ∀ token ∈ p.2, token.IsPlaced cs :=
              locates_readClause htoken hrest
            cases hresult : readClause kind t k token tokens with
            | error e =>
                rw [hresult] at hread
                exact hread
            | ok p =>
                rw [hresult] at hread
                have hshorter := length_of_readClause hresult
                rw [List.length_cons] at hlength
                exact ih p.2.length (by omega) hread rfl
          · rw [readTrailer]
            split
            · rename_i k hkind
              exact absurd ⟨k, hkind⟩ hclause
            · exact locates_near htoken.found
            · exact locates_near htoken.found
            · exact locates_near htoken.found
            · exact locates_near htoken.found
            · exact locates_strayToken htoken

/-! ## Queries -/

theorem locates_read (kind : EntityKind) (text : String) :
    Locates text.toList (read kind text) fun _ => True := by
  unfold read
  split
  · intro fragment position hfragment
    cases hfragment
  · apply (Token.locates_ofQuery text).bind
    intro tokens htokens
    unfold ofTokens
    apply (locates_readFilters (isPlaced_of_nothing_waits rfl rfl) htokens).bind
    rintro ⟨s, rest⟩ hrest
    apply (locates_readTrailer hrest).bind
    intro trailer _
    exact locates_ok trivial

/-- An error that shows a part of the query shows what stands at its position: the part itself or,
if it is a keyword, the keyword in any case.  Only a literal that cannot be read may stand further
on, behind some blanks or stars that begin at the position. -/
theorem error_shows_fragment (name text fragment : String) (position : Nat) (e : SyntaxError)
    (h : readNamed name (some text) = .error e) (hfragment : e.fragment = some fragment)
    (hposition : e.position = some position) :
    (text.toList.drop position).take fragment.toList.length = fragment.toList ∨
    (fragment ∈ Token.keywords.map (·.1) ∧
      Text.upper (String.ofList ((text.toList.drop position).take fragment.toList.length)) =
        fragment) ∨
    ((e.fault = .malformedString ∨ e.fault = .partialQuotes) ∧
      ∃ skipped : List Char, skipped ≠ [] ∧
        (skipped.all Text.isBlank ∨ skipped.all (· = '*')) ∧
        (text.toList.drop position).take (skipped ++ fragment.toList).length =
          skipped ++ fragment.toList) := by
  have hplaced : e.IsPlaced text.toList := by
    rcases bind_eq_error_iff.mp h with hkind | ⟨kind, -, hread⟩
    · unfold readKind at hkind
      split at hkind
      · cases hkind
      · cases hkind
        cases hfragment
    · have hread' : read kind text = .error e := hread
      have hlocates := locates_read kind text
      rw [hread'] at hlocates
      exact hlocates
  rcases hplaced fragment position hfragment hposition with
    (hstands | ⟨hkeyword, word, hstands, hupper⟩) | ⟨hfault, skipped, hskipped, hstands⟩
  · exact Or.inl hstands.take_eq
  · have hword := hstands.take_eq
    rw [length_of_upper_mem_keywords hupper hkeyword] at hword
    rw [← hword] at hupper
    exact Or.inr (Or.inl ⟨hkeyword, hupper⟩)
  · by_cases hnothing : skipped = []
    · rw [hnothing] at hstands
      exact Or.inl hstands.take_eq
    · exact Or.inr (Or.inr ⟨hfault, skipped, hnothing, hskipped, hstands.take_eq⟩)

theorem error_shows_fragment_keyword :
    readNamed "issues" (some "not") = .error ⟨.danglingWord "NOT", some "NOT", some 0⟩ ∧
    Text.upper (String.ofList (("not".toList.drop 0).take "NOT".toList.length)) = "NOT" := by
  have hread : readNamed "issues" (some "not") =
      .error ⟨.danglingWord "NOT", some "NOT", some 0⟩ := by
    have hkind : readKind "issues" = .ok .issue := by cbv
    have hchars : "not".toList = ['n', 'o', 't'] := rfl
    have htokens : Token.ofQuery "not" = .ok [⟨.not, "NOT", 0⟩] := by
      rw [Token.ofQuery_word hchars (by decide) rfl]
      cbv
    rw [readNamed, hkind, ok_bind]
    dsimp only
    rw [read, if_neg (by decide), htokens]
    rfl
  refine ⟨hread, ?_⟩
  rcases error_shows_fragment _ _ _ _ _ hread rfl rfl with hsame | ⟨-, hupper⟩ | ⟨hfault, -⟩
  · exact absurd hsame (by decide)
  · exact hupper
  · exact absurd hfault (by decide)

/-- Behind a blank in a list and behind a star, a literal that cannot be read stands one character
further on than the error tells. -/
theorem error_shows_blank_or_star :
    readNamed "issues" (some "tags:in:[a, \"b\"c]") =
      .error ⟨.malformedString, some "\"b\"c", some 11⟩ ∧
    ("tags:in:[a, \"b\"c]".toList.drop 11).take "\"b\"c".toList.length ≠ "\"b\"c".toList ∧
    "\"b\"c" ∉ Token.keywords.map (·.1) ∧
    ("tags:in:[a, \"b\"c]".toList.drop 12).take "\"b\"c".toList.length = "\"b\"c".toList ∧
    readNamed "issues" (some "subject:*a\"b\"") =
      .error ⟨.partialQuotes, some "a\"b\"", some 8⟩ ∧
    ("subject:*a\"b\"".toList.drop 8).take "a\"b\"".toList.length ≠ "a\"b\"".toList ∧
    "a\"b\"" ∉ Token.keywords.map (·.1) ∧
    ("subject:*a\"b\"".toList.drop 9).take "a\"b\"".toList.length = "a\"b\"".toList := by
  have hkind : readKind "issues" = .ok .issue := by cbv
  have hlist : Token.ofQuery "tags:in:[a, \"b\"c]" =
      .ok [⟨.fieldExpr, "tags:in:[a, \"b\"c]", 0⟩] := by
    have hchars : "tags:in:[a, \"b\"c]".toList =
        ['t', 'a', 'g', 's', ':', 'i', 'n', ':', '[', 'a', ',', ' ', '"', 'b', '"', 'c', ']'] := rfl
    rw [Token.ofQuery_word hchars (by decide) rfl]
    cbv
  have hwildcard : Token.ofQuery "subject:*a\"b\"" =
      .ok [⟨.fieldExpr, "subject:*a\"b\"", 0⟩] := by
    have hchars : "subject:*a\"b\"".toList =
        ['s', 'u', 'b', 'j', 'e', 'c', 't', ':', '*', 'a', '"', 'b', '"'] := rfl
    rw [Token.ofQuery_word hchars (by decide) rfl]
    cbv
  refine ⟨?_, by decide, by decide, by decide, ?_, by decide, by decide, by decide⟩
  · rw [readNamed, hkind, ok_bind]
    dsimp only
    rw [read, if_neg (by decide), hlist]
    cbv
  · rw [readNamed, hkind, ok_bind]
    dsimp only
    rw [read, if_neg (by decide), hwildcard]
    cbv

end Query

end IssueQuery
