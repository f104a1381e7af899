import IssueQuery.Proofs.Query.Concatenation
import IssueQuery.Proofs.Text.Ascii

/-!
# Parts of one word

The scanner carries its state through a query from left to right.  A part of a query stays in one
word if the scanner stops at none of its characters, that is, if it meets no blank that ends the
word and no bracket that closes nothing.  Where nothing is open and nothing opens, this only depends
on the characters themselves.
-/

namespace IssueQuery

open Outcome

namespace Scan

variable {s : Scan} {c : Char} {a b cs : List Char} {p : Scan → Char → Bool}

/-! ## The state behind a text -/

/-- The state behind a text. -/
def run (s : Scan) (cs : List Char) : Scan :=
  cs.foldl step s

@[simp]
theorem run_nil (s : Scan) : s.run [] = s := rfl

@[simp]
theorem run_cons (s : Scan) (c : Char) (cs : List Char) : s.run (c :: cs) = (s.step c).run cs := rfl

theorem run_append (s : Scan) (a b : List Char) : s.run (a ++ b) = (s.run a).run b :=
  List.foldl_append

/-- `p` holds of none of the characters of a text, each in the state before it. -/
def Avoids (p : Scan → Char → Bool) : Scan → List Char → Prop
  | _, [] => True
  | s, c :: cs => p s c = false ∧ Avoids p (s.step c) cs

instance decidableAvoids (p : Scan → Char → Bool) : ∀ s cs, Decidable (Avoids p s cs)
  | _, [] => .isTrue trivial
  | s, c :: cs => @instDecidableAnd _ _ _ (decidableAvoids p (s.step c) cs)

theorem avoids_nil (p : Scan → Char → Bool) (s : Scan) : s.Avoids p [] := trivial

theorem avoids_append : s.Avoids p (a ++ b) ↔ s.Avoids p a ∧ (s.run a).Avoids p b := by
  induction a generalizing s with
  | nil => simp [Avoids]
  | cons c a ih =>
      rw [List.cons_append, run_cons, Avoids, Avoids, ih, and_assoc]

/-! ## Neutral characters -/

/-- A character that opens and closes nothing, wherever it stands. -/
def isNeutral (c : Char) : Bool :=
  c ≠ '"' && c ≠ '\'' && c ≠ '[' && c ≠ ']'

theorem step_of_isNeutral (hs : s.quote = none) (hc : isNeutral c) :
    s.step c = { s with previous := some c } := by
  simp only [isNeutral, Bool.and_eq_true, decide_eq_true_eq] at hc
  obtain ⟨⟨⟨hdouble, hsingle⟩, hopen⟩, hclose⟩ := hc
  simp [step, opensQuote, hs, hdouble, hsingle, hopen, hclose]

theorem run_of_isNeutral (hs : s.quote = none) (h : ∀ c ∈ cs, isNeutral c) :
    s.run cs = { s with previous := cs.getLast?.or s.previous } := by
  induction cs generalizing s with
  | nil => rfl
  | cons c cs ih =>
      have hstep := step_of_isNeutral hs (h c List.mem_cons_self)
      have hquote : (s.step c).quote = none := by
        rw [hstep]
        exact hs
      rw [run_cons, ih hquote fun d hd => h d (List.mem_cons_of_mem c hd), hstep,
        List.getLast?_cons]
      cases cs.getLast? <;> rfl

theorem isNeutral_of_isBlank (h : Text.isBlank c) : isNeutral c := by
  have hother : ∀ d : Char, Text.isBlank d = false → c ≠ d := by
    rintro d hd rfl
    rw [h] at hd
    cases hd
  simp [isNeutral, hother _ (by decide : Text.isBlank '"' = false),
    hother _ (by decide : Text.isBlank '\'' = false),
    hother _ (by decide : Text.isBlank '[' = false),
    hother _ (by decide : Text.isBlank ']' = false)]

end Scan

namespace Token

variable {s : Scan} {c : Char} {a cs : List Char} {query : String}

/-! ## The characters at which a word stops -/

/-- Whether the scanner does not take `c` into the word: a blank ends the word, and a bracket that
closes nothing is a fault. -/
def stopsAt (s : Scan) (c : Char) : Bool :=
  s.isTop && Text.isBlank c || closesNothing s c

theorem stopsAt_of_not_isBlank (s : Scan) (hblank : Text.isBlank c = false) (hc : c ≠ ']') :
    stopsAt s c = false := by
  simp [stopsAt, closesNothing, hblank, hc]

theorem not_isBlank_of_not_stopsAt (h : stopsAt .start c = false) : ¬Text.isBlank c := by
  obtain ⟨hend, -⟩ := Bool.or_eq_false_iff.mp h
  simpa [Scan.isTop, Scan.start] using hend

theorem scanWord_nil_of_isTop (o : Openings) (h : s.isTop) : scanWord s o [] = .ok ([], []) := by
  simp only [Scan.isTop, Bool.and_eq_true, Option.isNone_iff_eq_none, decide_eq_true_eq] at h
  rw [scanWord, checkClosed, h.1, h.2]
  rfl

theorem scanWord_cons_of_not_stopsAt (o : Openings) (cs : List Char) (h : stopsAt s c = false) :
    scanWord s o (c :: cs) = (do
      let (word, rest) ← scanWord (s.step c) (o.step s c cs) cs
      return (c :: word, rest)) := by
  obtain ⟨hblank, hbracket⟩ := Bool.or_eq_false_iff.mp h
  rw [scanWord, hblank, if_neg Bool.false_ne_true, hbracket, if_neg Bool.false_ne_true]

/-- Characters at which the scanner does not stop go in front of the rest of the word.  What has
been opened only shows in faults. -/
theorem exists_scanWord_append (o : Openings) (b : List Char) (h : s.Avoids stopsAt a) :
    ∃ o', scanWord s o (a ++ b) =
      (scanWord (s.run a) o' b).map fun p => (a ++ p.1, p.2) := by
  induction a generalizing s o with
  | nil =>
      refine ⟨o, ?_⟩
      rw [List.nil_append, Scan.run_nil]
      cases scanWord s o b <;> rfl
  | cons c a ih =>
      obtain ⟨hc, ha⟩ := h
      obtain ⟨o', hrest⟩ := ih (o.step s c (a ++ b)) ha
      refine ⟨o', ?_⟩
      rw [List.cons_append, scanWord_cons_of_not_stopsAt o _ hc, hrest, Scan.run_cons]
      cases scanWord ((s.step c).run a) o' b <;> rfl

theorem exists_firstWord_append (b : List Char) (h : Scan.start.Avoids stopsAt (c :: a)) :
    ∃ o, firstWord c (a ++ b) =
      (scanWord (Scan.start.run (c :: a)) o b).map fun p => (c :: a ++ p.1, p.2) := by
  obtain ⟨hc, ha⟩ := h
  obtain ⟨-, hbracket⟩ := Bool.or_eq_false_iff.mp hc
  obtain ⟨o, hrest⟩ :=
    exists_scanWord_append (Openings.none.step .start c (a ++ b)) b ha
  refine ⟨o, ?_⟩
  rw [firstWord, hbracket, if_neg Bool.false_ne_true, hrest, Scan.run_cons]
  cases scanWord ((Scan.start.step c).run a) o b <;> rfl

/-- A word ends in front of a text: there is nothing left, or a blank stands there. -/
def EndsWord (rest : List Char) : Prop :=
  ∀ c ∈ rest.head?, Text.isBlank c

theorem scanWord_of_endsWord {rest : List Char} (o : Openings) (hs : s.isTop)
    (h : EndsWord rest) : scanWord s o rest = .ok ([], rest) := by
  cases rest with
  | nil => exact scanWord_nil_of_isTop o hs
  | cons c rest =>
      have hblank : Text.isBlank c := h c rfl
      rw [scanWord, hs, hblank]
      rfl

/-- What the scanner takes for a word holds no character at which it stops, nothing is open behind
it, and a blank or the end of the text follows. -/
theorem ends_of_scanWord {o : Openings} {word rest : List Char}
    (h : scanWord s o cs = .ok (word, rest)) :
    s.Avoids stopsAt word ∧ (s.run word).isTop ∧ EndsWord rest := by
  induction cs generalizing s o word rest with
  | nil =>
      obtain ⟨u, hclosed, hnil⟩ := bind_eq_ok_iff.mp h
      cases hnil
      exact ⟨Scan.avoids_nil _ _, isTop_of_checkClosed hclosed, nofun⟩
  | cons c cs ih =>
      by_cases hstop : stopsAt s c
      · rw [scanWord] at h
        split at h
        · rename_i hend
          rw [Bool.and_eq_true] at hend
          cases h
          refine ⟨Scan.avoids_nil _ _, hend.1, ?_⟩
          rintro d ⟨⟩
          exact hend.2
        · rename_i hblank
          have hbracket : closesNothing s c = true := by
            rcases Bool.or_eq_true_iff.mp hstop with hend | hbracket
            · exact absurd hend hblank
            · exact hbracket
          rw [hbracket, if_pos rfl] at h
          cases h
      · rw [Bool.not_eq_true] at hstop
        rw [scanWord_cons_of_not_stopsAt o cs hstop] at h
        obtain ⟨⟨word', rest'⟩, hword, hcons⟩ := bind_eq_ok_iff.mp h
        cases hcons
        obtain ⟨havoids, htop⟩ := ih hword
        exact ⟨⟨hstop, havoids⟩, htop⟩

theorem scanWord_eq_ok_iff {o : Openings} {word rest : List Char} :
    scanWord s o cs = .ok (word, rest) ↔
      cs = word ++ rest ∧ s.Avoids stopsAt word ∧ (s.run word).isTop ∧ EndsWord rest := by
  constructor
  · intro h
    exact ⟨(append_of_scanWord h).symm, ends_of_scanWord h⟩
  · rintro ⟨rfl, havoids, htop, hend⟩
    obtain ⟨o', hscan⟩ := exists_scanWord_append o rest havoids
    rw [hscan, scanWord_of_endsWord o' htop hend]
    simp [Except.map]

/-- The first token of a query goes on with what the scanner takes behind a part without a stop. -/
theorem exists_word_of_ofQuery {tokens : List Token} {front rest : List Char} (hne : front ≠ [])
    (hquery : query.toList = front ++ rest) (havoids : Scan.start.Avoids stopsAt front)
    (h : ofQuery query = .ok tokens) :
    ∃ o word behind tokens', scanWord (Scan.start.run front) o rest = .ok (word, behind) ∧
      tokens = classify (front ++ word) 0 :: tokens' := by
  obtain ⟨c, cs, rfl⟩ := List.exists_cons_of_ne_nil hne
  have hblank := not_isBlank_of_not_stopsAt havoids.1
  obtain ⟨o, hfirst⟩ := exists_firstWord_append rest havoids
  rw [ofQuery_eq_ok_iff, hquery, List.cons_append] at h
  cases hscan : scanWord (Scan.start.run (c :: cs)) o rest with
  | error e =>
      rw [hscan] at hfirst
      rw [scan_cons_of_fault hblank hfirst] at h
      cases h
  | ok p =>
      obtain ⟨word, behind⟩ := p
      rw [hscan] at hfirst
      rw [scan_cons_of_firstWord hblank hfirst, List.length_cons, Nat.sub_self] at h
      obtain ⟨tokens', -, hcons⟩ := bind_eq_ok_iff.mp h
      cases hcons
      exact ⟨o, word, behind, tokens', hscan, rfl⟩

/-- A text at which the scanner never stops is a single token if it closes all that it opens. -/
theorem ofQuery_of_avoids (hne : query.toList ≠ []) (h : Scan.start.Avoids stopsAt query.toList)
    (htop : (Scan.start.run query.toList).isTop) :
    ofQuery query = .ok [classify query.toList 0] := by
  obtain ⟨c, cs, hcs⟩ := List.exists_cons_of_ne_nil hne
  rw [hcs] at h htop ⊢
  have hblank := not_isBlank_of_not_stopsAt h.1
  obtain ⟨o, hfirst⟩ := exists_firstWord_append [] h
  rw [List.append_nil, scanWord_nil_of_isTop o htop] at hfirst
  have hword : firstWord c cs = .ok (c :: cs, []) := by
    rw [hfirst]
    simp [Except.map]
  exact ofQuery_word hcs hblank hword

/-! ## Plain words -/

/-- A character that neither ends a word nor opens or closes anything in it. -/
def isPlain (c : Char) : Bool :=
  !Text.isBlank c && c ≠ '"' && c ≠ '\'' && c ≠ '[' && c ≠ ']'

theorem isPlain_iff : isPlain c ↔ Text.isBlank c = false ∧ Scan.isNeutral c := by
  simp [isPlain, Scan.isNeutral, and_assoc]

theorem isPlain_of_isAlphanum (h : c.isAlphanum) : isPlain c :=
  Text.Case.forall_isAscii (p := fun c => c.isAlphanum → isPlain c) (by decide +kernel)
    (Text.Case.isAscii_of_isAlphanum h) h

theorem stopsAt_of_isPlain (s : Scan) (hc : isPlain c) : stopsAt s c = false := by
  simp only [isPlain, Bool.and_eq_true, Bool.not_eq_true', decide_eq_true_eq] at hc
  exact stopsAt_of_not_isBlank s hc.1.1.1.1 hc.2

/-- Plain characters stay in the word. -/
theorem avoids_of_isPlain (s : Scan) (h : ∀ c ∈ cs, isPlain c) : s.Avoids stopsAt cs := by
  induction cs generalizing s with
  | nil => exact Scan.avoids_nil _ s
  | cons c cs ih =>
      have hc := stopsAt_of_isPlain s (h c List.mem_cons_self)
      exact ⟨hc, ih _ fun d hd => h d (List.mem_cons_of_mem c hd)⟩

/-- Plain characters leave everything open that is open and open nothing. -/
theorem run_of_isPlain (hs : s.quote = none) (h : ∀ c ∈ cs, isPlain c) :
    s.run cs = { s with previous := cs.getLast?.or s.previous } :=
  Scan.run_of_isNeutral hs fun c hc => (isPlain_iff.mp (h c hc)).2

/-- A text of plain characters is a single token. -/
theorem ofQuery_of_isPlain (hne : query.toList ≠ []) (h : query.toList.all isPlain) :
    ofQuery query = .ok [classify query.toList 0] := by
  rw [List.all_eq_true] at h
  have htop : (Scan.start.run query.toList).isTop := by
    rw [run_of_isPlain rfl h]
    rfl
  exact ofQuery_of_avoids hne (avoids_of_isPlain .start h) htop

end Token

end IssueQuery
