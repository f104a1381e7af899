import IssueQuery.Proofs.Outcome
import IssueQuery.Query.Token
import Mathlib

/-!
# Queries written one behind the other

The tokens of two texts with blanks between them are those of the first and, moved along, those of
the second.  A word that ends with its text has nothing open, so a blank behind it ends it as well;
and behind a blank the scanner begins a new word as if the text began there.
-/

namespace IssueQuery

open Outcome

namespace Token

/-- A token that stands `k` characters further on. -/
def shift (k : Nat) (t : Token) : Token :=
  { t with position := k + t.position }

@[simp]
theorem text_shift (k : Nat) (t : Token) : (t.shift k).text = t.text := rfl

theorem classify_add (word : List Char) (k position : Nat) :
    classify word (k + position) = (classify word position).shift k := by
  unfold classify
  dsimp only
  split
  · rfl
  · split
    · rfl
    · split
      · rfl
      · rfl

/-! ## Words -/

theorem isTop_of_checkClosed {s : Scan} {o : Openings} {u : Unit}
    (h : checkClosed s o = .ok u) : s.isTop = true := by
  unfold checkClosed at h
  split at h
  · cases h
  · rename_i hquote
    split at h
    · cases h
    · rename_i hdepth
      rw [Bool.not_eq_true, Option.isSome_eq_false_iff] at hquote
      rw [ne_eq, Decidable.not_not] at hdepth
      simp [Scan.isTop, hquote, hdepth]

/-- A word is not changed by a blank behind the text that it was read from. -/
theorem scanWord_append {s : Scan} {o : Openings} {cs word rest : List Char} (o' : Openings)
    {w : Char} (tail : List Char) (hw : Text.isBlank w)
    (h : scanWord s o cs = .ok (word, rest)) :
    scanWord s o' (cs ++ w :: tail) = .ok (word, rest ++ w :: tail) := by
  induction cs generalizing s o o' word rest with
  | nil =>
      obtain ⟨u, hclosed, hnil⟩ := bind_eq_ok_iff.mp h
      cases hnil
      simp [scanWord, isTop_of_checkClosed hclosed, hw]
  | cons c cs ih =>
      rw [scanWord] at h
      rw [List.cons_append, scanWord]
      split at h
      · rename_i hend
        cases h
        rw [if_pos hend]
        rfl
      · rename_i hend
        rw [if_neg hend]
        split at h
        · cases h
        · rename_i hbracket
          rw [if_neg hbracket]
          obtain ⟨⟨word', rest'⟩, hword, hcons⟩ := bind_eq_ok_iff.mp h
          cases hcons
          rw [ih (o'.step s c (cs ++ w :: tail)) hword]
          rfl

theorem firstWord_append {c : Char} {cs word rest : List Char} {w : Char} (tail : List Char)
    (hw : Text.isBlank w) (h : firstWord c cs = .ok (word, rest)) :
    firstWord c (cs ++ w :: tail) = .ok (word, rest ++ w :: tail) := by
  unfold firstWord at h ⊢
  split at h
  · cases h
  · rename_i hbracket
    rw [if_neg hbracket]
    obtain ⟨⟨word', rest'⟩, hword, hcons⟩ := bind_eq_ok_iff.mp h
    cases hcons
    rw [scanWord_append _ tail hw hword]
    rfl

/-! ## Texts -/

theorem scan_nil (total : Nat) : scan total [] = .ok [] := by
  rw [scan.eq_def]

theorem scan_cons_of_isBlank {total : Nat} {c : Char} {cs : List Char} (hc : Text.isBlank c) :
    scan total (c :: cs) = scan total cs := by
  rw [scan.eq_def]
  exact if_pos hc

theorem scan_cons_of_firstWord {total : Nat} {c : Char} {cs word rest : List Char}
    (hc : ¬Text.isBlank c) (h : firstWord c cs = .ok (word, rest)) :
    scan total (c :: cs) = (do
      let tokens ← scan total rest
      return classify word (total - (cs.length + 1)) :: tokens) := by
  rw [scan.eq_def]
  dsimp only
  rw [if_neg hc]
  split
  · rename_i e he
    rw [h] at he
    cases he
  · rename_i word' rest' hword
    rw [h] at hword
    cases hword
    rfl

theorem scan_cons_of_fault {total : Nat} {c : Char} {cs : List Char} {e : LexicalFault}
    (hc : ¬Text.isBlank c) (h : firstWord c cs = .error e) :
    scan total (c :: cs) = .error e := by
  rw [scan.eq_def]
  dsimp only
  rw [if_neg hc]
  split
  · rename_i e' he
    rw [h] at he
    cases he
    rfl
  · rename_i word rest hword
    rw [h] at hword
    cases hword

/-- Behind a text with tokens and a blank, the scanner goes on with what follows. -/
theorem scan_append {total : Nat} {cs : List Char} {tokens : List Token} {w : Char}
    (tail : List Char) (hw : Text.isBlank w) (h : scan total cs = .ok tokens) :
    scan (total + (tail.length + 1)) (cs ++ w :: tail) =
      (scan (total + (tail.length + 1)) tail).map (tokens ++ ·) := by
  induction cs using scan.induct generalizing tokens with
  | case1 =>
      rw [scan_nil, Except.ok.injEq] at h
      rw [List.nil_append, scan_cons_of_isBlank hw, ← h]
      cases scan (total + (tail.length + 1)) tail <;> rfl
  | case2 c cs hc ih =>
      rw [scan_cons_of_isBlank hc] at h
      rw [List.cons_append, scan_cons_of_isBlank hc, ih h]
  | case3 c cs hc e he =>
      rw [scan_cons_of_fault hc he] at h
      cases h
  | case4 c cs hc word rest hword _ ih =>
      rw [scan_cons_of_firstWord hc hword] at h
      obtain ⟨tokens', htokens, hcons⟩ := bind_eq_ok_iff.mp h
      cases hcons
      have hposition : total + (tail.length + 1) - ((cs ++ w :: tail).length + 1) =
          total - (cs.length + 1) := by
        rw [List.length_append, List.length_cons]
        omega
      rw [List.cons_append, scan_cons_of_firstWord hc (firstWord_append tail hw hword),
        ih htokens, hposition]
      cases scan (total + (tail.length + 1)) tail <;> rfl

/-- Characters in front of a text move its tokens along, and leave its faults alone. -/
theorem scan_add {total : Nat} (k : Nat) {cs : List Char} (h : cs.length ≤ total) :
    scan (k + total) cs = (scan total cs).map (List.map (shift k)) := by
  induction cs using scan.induct with
  | case1 =>
      simp [scan_nil, Except.map]
  | case2 c cs hc ih =>
      rw [scan_cons_of_isBlank hc, scan_cons_of_isBlank hc]
      exact ih (Nat.le_of_succ_le h)
  | case3 c cs hc e he =>
      rw [scan_cons_of_fault hc he, scan_cons_of_fault hc he]
      rfl
  | case4 c cs hc word rest hword hlength ih =>
      rw [List.length_cons] at h
      have hposition : k + total - (cs.length + 1) = k + (total - (cs.length + 1)) := by
        omega
      rw [scan_cons_of_firstWord hc hword, scan_cons_of_firstWord hc hword,
        ih (Nat.le_trans hlength (Nat.le_of_succ_le h)), hposition, classify_add]
      cases scan total rest <;> rfl

/-- Blanks in front of a text are skipped. -/
theorem scan_blanks_append {total : Nat} {blanks : List Char} (cs : List Char)
    (h : ∀ c ∈ blanks, Text.isBlank c) : scan total (blanks ++ cs) = scan total cs := by
  induction blanks with
  | nil => rfl
  | cons c blanks ih =>
      rw [List.cons_append, scan_cons_of_isBlank (h c (by simp))]
      exact ih fun d hd => h d (List.mem_cons_of_mem c hd)

/-- A text without tokens is blank. -/
theorem all_isBlank_of_scan_eq_nil {total : Nat} {cs : List Char} (h : scan total cs = .ok []) :
    cs.all Text.isBlank := by
  induction cs using scan.induct with
  | case1 => rfl
  | case2 c cs hc ih =>
      rw [scan_cons_of_isBlank hc] at h
      rw [List.all_cons, ih h, hc]
      rfl
  | case3 c cs hc e he =>
      rw [scan_cons_of_fault hc he] at h
      cases h
  | case4 c cs hc word rest hword _ ih =>
      rw [scan_cons_of_firstWord hc hword] at h
      obtain ⟨tokens, -, hcons⟩ := bind_eq_ok_iff.mp h
      cases hcons

/-! ## Queries -/

theorem ofQuery_eq_ok_iff {query : String} {tokens : List Token} :
    ofQuery query = .ok tokens ↔ scan query.toList.length query.toList = .ok tokens := by
  unfold ofQuery
  dsimp only
  cases scan query.toList.length query.toList <;> simp [Except.mapError]

/-- A text that is a single word has one token. -/
theorem ofQuery_word {query : String} {c : Char} {cs : List Char} (h : query.toList = c :: cs)
    (hc : ¬Text.isBlank c) (hword : firstWord c cs = .ok (c :: cs, [])) :
    ofQuery query = .ok [classify (c :: cs) 0] := by
  rw [ofQuery_eq_ok_iff, h, scan_cons_of_firstWord hc hword, scan_nil, List.length_cons,
    Nat.sub_self]
  rfl

theorem ofQuery_and : ofQuery "AND" = .ok [⟨.and, "AND", 0⟩] := by
  have hchars : "AND".toList = ['A', 'N', 'D'] := rfl
  rw [ofQuery_word hchars (by decide) rfl]
  cbv

theorem ofQuery_or : ofQuery "OR" = .ok [⟨.or, "OR", 0⟩] := by
  have hchars : "OR".toList = ['O', 'R'] := rfl
  rw [ofQuery_word hchars (by decide) rfl]
  cbv

theorem ofQuery_not : ofQuery "NOT" = .ok [⟨.not, "NOT", 0⟩] := by
  have hchars : "NOT".toList = ['N', 'O', 'T'] := rfl
  rw [ofQuery_word hchars (by decide) rfl]
  cbv

/-- Behind a text with tokens and blanks, the scanner takes a text as if it stood alone. -/
theorem scan_append_blanks {a blanks b : String} {as : List Token} (ha : ofQuery a = .ok as)
    (hne : blanks ≠ "") (hblanks : Text.isBlankText blanks) :
    scan (a ++ blanks ++ b).toList.length (a ++ blanks ++ b).toList =
      (scan b.toList.length b.toList).map fun bs =>
        as ++ bs.map (shift (a.length + blanks.length)) := by
  rw [ofQuery_eq_ok_iff] at ha
  obtain ⟨w, ws, hws⟩ : ∃ w ws, blanks.toList = w :: ws :=
    List.exists_cons_of_ne_nil (by simpa using hne)
  rw [Text.isBlankText, hws, List.all_cons, Bool.and_eq_true, List.all_eq_true] at hblanks
  obtain ⟨hw, hblank⟩ := hblanks
  have htext : (a ++ blanks ++ b).toList = a.toList ++ w :: (ws ++ b.toList) := by
    simp [hws]
  have hlength : blanks.length = ws.length + 1 := by
    rw [← String.length_toList, hws, List.length_cons]
  have htotal : a.toList.length + ((ws ++ b.toList).length + 1) =
      a.length + blanks.length + b.toList.length := by
    rw [List.length_append, String.length_toList, hlength]
    omega
  rw [htext, List.length_append, List.length_cons, scan_append _ hw ha,
    scan_blanks_append _ hblank, htotal, scan_add _ (Nat.le_refl _)]
  cases scan b.toList.length b.toList <;> rfl

/-- Reading two texts with blanks between them gives the tokens of both. -/
theorem ofQuery_append {a b blanks : String} {as bs : List Token} (ha : ofQuery a = .ok as)
    (hb : ofQuery b = .ok bs) (hne : blanks ≠ "") (hblanks : Text.isBlankText blanks) :
    ofQuery (a ++ blanks ++ b) = .ok (as ++ bs.map (shift (a.length + blanks.length))) := by
  rw [ofQuery_eq_ok_iff] at hb ⊢
  rw [scan_append_blanks ha hne hblanks, hb]
  rfl

/-- The blank texts are those without tokens. -/
theorem ofQuery_eq_nil_iff {query : String} :
    ofQuery query = .ok [] ↔ Text.isBlankText query := by
  rw [ofQuery_eq_ok_iff]
  constructor
  · exact all_isBlank_of_scan_eq_nil
  · intro hblank
    have hskip : scan query.toList.length (query.toList ++ []) = scan query.toList.length [] :=
      scan_blanks_append [] (List.all_eq_true.mp hblank)
    rw [List.append_nil] at hskip
    rw [hskip, scan_nil]

end Token

end IssueQuery
