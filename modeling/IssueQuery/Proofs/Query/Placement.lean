import IssueQuery.Proofs.Query.Concatenation
import IssueQuery.Proofs.Table
import IssueQuery.Proofs.Text.Capital

/-!
# Where the parts of a query stand

An error shows a part of a query and the number of characters before it.  To follow this through the
reader, each step says of its result where in the query it stands, and of its errors that they show
what stands at their position.  Both go through a sequence of steps, so it is enough to look at each
of them alone.  This module does so for the cutting of a query into words.
-/

namespace IssueQuery

open Outcome

/-! ## Parts of a text -/

/-- `part` stands in `cs` behind the first `position` characters. -/
def StandsAt (part cs : List Char) (position : Nat) : Prop :=
  part <+: cs.drop position

namespace StandsAt

variable {part part' cs : List Char} {position : Nat}

theorem nil (cs : List Char) (position : Nat) : StandsAt [] cs position :=
  List.nil_prefix

theorem shorten (h : StandsAt part cs position) (hshorter : part' <+: part) :
    StandsAt part' cs position :=
  hshorter.trans h

theorem drop (h : StandsAt part cs position) (k : Nat) :
    StandsAt (part.drop k) cs (position + k) := by
  rw [StandsAt, ← List.drop_drop]
  exact List.IsPrefix.drop h k

/-- What follows a part stands behind it. -/
theorem behind (h : StandsAt (part ++ part') cs position) :
    StandsAt part' cs (position + part.length) := by
  have hdrop := h.drop part.length
  rwa [List.drop_left] at hdrop

theorem of_suffix (h : part <:+ cs) : StandsAt part cs (cs.length - part.length) := by
  rw [StandsAt, ← List.suffix_iff_eq_drop.mp h]

theorem take_eq (h : StandsAt part cs position) :
    (cs.drop position).take part.length = part :=
  (List.prefix_iff_eq_take.mp h).symm

end StandsAt

/-- `text` stands at a position of `cs`, in any case if it is a keyword. -/
def IsFound (cs : List Char) (text : String) (position : Nat) : Prop :=
  StandsAt text.toList cs position ∨
    text ∈ Token.keywords.map (·.1) ∧
      ∃ word, StandsAt word cs position ∧ Text.upper (String.ofList word) = text

theorem isFound_ofList {part cs : List Char} {position : Nat} (h : StandsAt part cs position) :
    IsFound cs (String.ofList part) position := by
  rw [IsFound, String.toList_ofList]
  exact Or.inl h

/-- A word that is a keyword has as many characters as the keyword. -/
theorem length_of_upper_mem_keywords {word : List Char} {text : String}
    (hupper : Text.upper (String.ofList word) = text) (htext : text ∈ Token.keywords.map (·.1)) :
    word.length = text.toList.length := by
  have hlone : ∀ keyword ∈ Token.keywords.map (·.1),
      keyword.toList.all Text.Case.isLoneCapital := by
    decide +kernel
  have hcapitals : Text.Case.upper word = text.toList := by
    rw [← hupper, Text.toList_upper, String.toList_ofList]
  rw [← hcapitals, Text.Case.length_upper]
  rw [hcapitals]
  exact List.all_eq_true.mp (hlone text htext)

/-! ## Steps of the reader -/

/-- An error that shows a part of `cs` shows what stands at its position.  Only a literal that
cannot be read may stand behind some blanks or stars that are not counted. -/
def SyntaxError.IsPlaced (cs : List Char) (e : SyntaxError) : Prop :=
  ∀ fragment position, e.fragment = some fragment → e.position = some position →
    IsFound cs fragment position ∨
      (e.fault = .malformedString ∨ e.fault = .partialQuotes) ∧
        ∃ skipped : List Char, (skipped.all Text.isBlank ∨ skipped.all (· = '*')) ∧
          StandsAt (skipped ++ fragment.toList) cs position

variable {α β : Type} {cs : List Char} {x : Except SyntaxError α} {f : α → Except SyntaxError β}
  {post : α → Prop} {post' : β → Prop}

/-- A step on the way through `cs` has a result as told, or its error is placed. -/
def Locates (cs : List Char) (x : Except SyntaxError α) (post : α → Prop) : Prop :=
  match x with
  | .ok a => post a
  | .error e => e.IsPlaced cs

theorem locates_ok {a : α} (h : post a) : Locates cs (.ok a) post := h

theorem locates_near {fault : SyntaxFault} {fragment : String} {position : Nat}
    (h : IsFound cs fragment position) :
    Locates cs (SyntaxError.near fault fragment position) post := by
  intro fragment' position' hfragment hposition
  obtain rfl := Option.some.inj hfragment
  obtain rfl := Option.some.inj hposition
  exact Or.inl h

theorem Locates.bind (hx : Locates cs x post) (hf : ∀ a, post a → Locates cs (f a) post') :
    Locates cs (x >>= f) post' := by
  cases x with
  | error e => exact hx
  | ok a => exact hf a hx

namespace Token

/-! ## Words -/

/-- A token of `cs` is found at its position, and the form `field:value` is found as it is. -/
structure IsPlaced (cs : List Char) (token : Token) : Prop where
  found : IsFound cs token.text token.position
  exact : token.kind = .fieldExpr → StandsAt token.text.toList cs token.position

theorem isPlaced_classify {word : List Char} {position : Nat} (h : StandsAt word cs position) :
    (classify word position).IsPlaced cs := by
  have hword : StandsAt (String.ofList word).toList cs position := by
    rwa [String.toList_ofList]
  unfold classify
  dsimp only
  split
  · exact ⟨Or.inl hword, fun _ => hword⟩
  · split
    · exact ⟨Or.inl hword, fun _ => hword⟩
    · split
      · rename_i kind hlookup
        have hmem : (Text.upper (String.ofList word), kind) ∈ keywords :=
          Table.mem_of_lookup hlookup
        have hkinds : ∀ p ∈ keywords, p.2 ≠ .fieldExpr := by decide
        refine ⟨Or.inr ⟨List.mem_map_of_mem hmem, word, h, rfl⟩, ?_⟩
        intro hkind
        exact absurd hkind (hkinds _ hmem)
      · exact ⟨Or.inl hword, fun _ => hword⟩

/-- What is open in a word begins in the text. -/
structure Opens (cs : List Char) (o : Openings) : Prop where
  quote : o.quote <:+ cs
  bracket : o.bracket <:+ cs

theorem opens_none (cs : List Char) : Opens cs .none :=
  ⟨List.nil_suffix, List.nil_suffix⟩

theorem Opens.step {o : Openings} (h : Opens cs o) (s : Scan) {c : Char} {rest : List Char}
    (hrest : c :: rest <:+ cs) : Opens cs (o.step s c rest) := by
  unfold Openings.step
  split
  · split
    · exact ⟨hrest, h.bracket⟩
    · split
      · exact ⟨h.quote, hrest⟩
      · exact h
  · exact h

theorem suffix_of_scanWord {s : Scan} {o : Openings} {rest : List Char} {e : LexicalFault}
    (ho : Opens cs o) (hrest : rest <:+ cs) (h : scanWord s o rest = .error e) : e.rest <:+ cs := by
  induction rest generalizing s o with
  | nil =>
      have hclosed : checkClosed s o = .error e := by
        rcases bind_eq_error_iff.mp h with hclosed | ⟨u, -, hdone⟩
        · exact hclosed
        · cases hdone
      unfold checkClosed at hclosed
      split at hclosed
      · cases hclosed
        exact ho.quote
      · split at hclosed
        · cases hclosed
          exact ho.bracket
        · cases hclosed
  | cons c rest ih =>
      rw [scanWord] at h
      split at h
      · cases h
      · split at h
        · cases h
          exact hrest
        · rcases bind_eq_error_iff.mp h with hword | ⟨p, -, hdone⟩
          · exact ih (ho.step s hrest) ((List.suffix_cons c rest).trans hrest) hword
          · cases hdone

theorem suffix_of_firstWord {c : Char} {rest : List Char} {e : LexicalFault}
    (hrest : c :: rest <:+ cs) (h : firstWord c rest = .error e) : e.rest <:+ cs := by
  unfold firstWord at h
  split at h
  · cases h
    exact hrest
  · rcases bind_eq_error_iff.mp h with hword | ⟨p, -, hdone⟩
    · exact suffix_of_scanWord ((opens_none cs).step .start hrest)
        ((List.suffix_cons c rest).trans hrest) hword
    · cases hdone

theorem append_of_firstWord {c : Char} {cs word rest : List Char}
    (h : firstWord c cs = .ok (word, rest)) : word ++ rest = c :: cs := by
  unfold firstWord at h
  split at h
  · cases h
  · obtain ⟨⟨word', rest'⟩, hword, hcons⟩ := bind_eq_ok_iff.mp h
    cases hcons
    rw [List.cons_append, append_of_scanWord hword]

/-! ## Texts -/

/-- What is scanned is the rest of the text, so the characters before it are those that the rest
lacks. -/
theorem isPlaced_of_scan {rest : List Char} {tokens : List Token} (hrest : rest <:+ cs)
    (h : scan cs.length rest = .ok tokens) : ∀ token ∈ tokens, token.IsPlaced cs := by
  induction rest using scan.induct generalizing tokens with
  | case1 =>
      rw [scan_nil, Except.ok.injEq] at h
      rw [← h]
      exact List.forall_mem_nil _
  | case2 c rest hc ih =>
      rw [scan_cons_of_isBlank hc] at h
      exact ih ((List.suffix_cons c rest).trans hrest) h
  | case3 c rest hc e he =>
      rw [scan_cons_of_fault hc he] at h
      cases h
  | case4 c rest hc word behind hword _ ih =>
      rw [scan_cons_of_firstWord hc hword] at h
      obtain ⟨tokens', htokens, hcons⟩ := bind_eq_ok_iff.mp h
      cases hcons
      have happend := append_of_firstWord hword
      have hstands : StandsAt word cs (cs.length - (rest.length + 1)) :=
        (StandsAt.of_suffix hrest).shorten ⟨behind, happend⟩
      have hbehind : behind <:+ cs := List.IsSuffix.trans ⟨word, happend⟩ hrest
      exact List.forall_mem_cons.mpr ⟨isPlaced_classify hstands, ih hbehind htokens⟩

theorem suffix_of_scan {total : Nat} {rest : List Char} {e : LexicalFault} (hrest : rest <:+ cs)
    (h : scan total rest = .error e) : e.rest <:+ cs := by
  induction rest using scan.induct with
  | case1 =>
      rw [scan_nil] at h
      cases h
  | case2 c rest hc ih =>
      rw [scan_cons_of_isBlank hc] at h
      exact ih ((List.suffix_cons c rest).trans hrest) h
  | case3 c rest hc e' he =>
      rw [scan_cons_of_fault hc he] at h
      cases h
      exact suffix_of_firstWord hrest he
  | case4 c rest hc word behind hword _ ih =>
      rw [scan_cons_of_firstWord hc hword] at h
      rcases bind_eq_error_iff.mp h with hscan | ⟨tokens, -, hdone⟩
      · exact ih (List.IsSuffix.trans ⟨word, append_of_firstWord hword⟩ hrest) hscan
      · cases hdone

theorem locates_ofQuery (query : String) :
    Locates query.toList (ofQuery query) fun tokens =>
      ∀ token ∈ tokens, token.IsPlaced query.toList := by
  unfold ofQuery
  dsimp only
  cases hscan : scan query.toList.length query.toList with
  | ok tokens => exact isPlaced_of_scan (List.suffix_refl _) hscan
  | error e =>
      have hrest : StandsAt e.rest query.toList (query.toList.length - e.rest.length) :=
        .of_suffix (suffix_of_scan (List.suffix_refl _) hscan)
      intro fragment position hfragment hposition
      obtain rfl := Option.some.inj hfragment
      obtain rfl := Option.some.inj hposition
      apply Or.inl
      apply isFound_ofList
      split
      · exact hrest.shorten (List.take_prefix 1 e.rest)
      · exact hrest

end Token

end IssueQuery
