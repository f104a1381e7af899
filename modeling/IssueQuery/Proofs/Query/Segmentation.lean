import IssueQuery.Proofs.Query.Placement
import IssueQuery.Proofs.Query.SingleQuotes

/-!
# Queries as words and blanks

The scanner cuts a query into words and loses nothing of it: between the words there are blanks, and
a word holds no blank but in its quoted texts and its lists.  What a word consists of is said by a
grammar first.  The scanner counts the open brackets instead, so a rest of a word in several lists
is taken apart at the brackets that close them.
-/

namespace IssueQuery

open Outcome
open Literal (quoted)

/-! ## The grammar of words -/

/-- Whether `c` opens a quoted text behind `previous`. -/
def Scan.opensBehind (previous : Option Char) (c : Char) : Bool :=
  Scan.opensQuote ⟨previous, none, 0⟩ c

/-- A text behind `previous` closes each quote and each bracket that it opens, and outside quotes
and brackets it holds blanks only if it stands in a list itself. -/
inductive Balanced : Bool → Option Char → List Char → Prop where
  | nil (inList : Bool) (previous : Option Char) : Balanced inList previous []
  | char {inList : Bool} {previous : Option Char} {c : Char} {cs : List Char} :
      Scan.opensBehind previous c = false → c ≠ '[' → c ≠ ']' → (Text.isBlank c → inList) →
      Balanced inList (some c) cs → Balanced inList previous (c :: cs)
  | quote {inList : Bool} {previous : Option Char} {q : Char} {text cs : List Char} :
      Scan.opensBehind previous q → q ∉ text → Balanced inList (some q) cs →
      Balanced inList previous (quoted q text ++ cs)
  | list {inList : Bool} {previous : Option Char} {items cs : List Char} :
      Balanced true (some '[') items → Balanced inList (some ']') cs →
      Balanced inList previous ('[' :: (items ++ ']' :: cs))

namespace Scan

variable {previous : Option Char} {c q : Char} {cs text items rest : List Char} {depth : Nat}

/-- The state behind `previous` if `depth` brackets are open, but no quote. -/
def behind (previous : Option Char) (depth : Nat) : Scan :=
  ⟨previous, none, depth⟩

theorem step_behind_of_plain (hquote : opensBehind previous c = false) (hopen : c ≠ '[')
    (hclose : c ≠ ']') : (behind previous depth).step c = behind (some c) depth := by
  have hc : (behind previous depth).opensQuote c = false := hquote
  rw [step_of_not_opensQuote rfl hc, openBrackets]
  simp [behind, hopen, hclose]

theorem step_behind_open (previous : Option Char) (depth : Nat) :
    (behind previous depth).step '[' = behind (some '[') (depth + 1) := by
  have hc : (behind previous depth).opensQuote '[' = false :=
    opensQuote_eq_false _ (by decide) (by decide)
  rw [step_of_not_opensQuote rfl hc]
  rfl

theorem step_behind_close (previous : Option Char) (depth : Nat) :
    (behind previous (depth + 1)).step ']' = behind (some ']') depth := by
  have hc : (behind previous (depth + 1)).opensQuote ']' = false :=
    opensQuote_eq_false _ (by decide) (by decide)
  rw [step_of_not_opensQuote rfl hc]
  simp [behind, openBrackets]

theorem run_behind_quoted (hq : opensBehind previous q) (h : q ∉ text) :
    (behind previous depth).run (quoted q text) = behind (some q) depth := by
  have hopens : (behind previous depth).opensQuote q := hq
  exact run_quoted rfl hopens h

end Scan

open Scan (behind opensBehind)

/-- The scanner goes through a balanced text without a stop, and leaves as much open as before. -/
theorem Balanced.passes {inList : Bool} {previous : Option Char} {cs : List Char}
    (h : Balanced inList previous cs) {depth : Nat} (hdepth : inList → 0 < depth) :
    (behind previous depth).Avoids Token.stopsAt cs ∧
      ∃ last, (behind previous depth).run cs = behind last depth := by
  induction h generalizing depth with
  | nil _ previous => exact ⟨Scan.avoids_nil _ _, previous, rfl⟩
  | @char inList previous c cs hquote hopen hclose hblank _ ih =>
      obtain ⟨havoids, last, hrun⟩ := ih hdepth
      have hstep : (behind previous depth).step c = behind (some c) depth :=
        Scan.step_behind_of_plain hquote hopen hclose
      have hstop : Token.stopsAt (behind previous depth) c = false := by
        rw [Scan.stopsAt_eq_false_iff rfl]
        intro hzero
        refine ⟨?_, hclose⟩
        rw [Bool.eq_false_iff]
        intro hc
        exact absurd (Int.natCast_eq_zero.mp hzero) (hdepth (hblank hc)).ne'
      rw [Scan.Avoids, Scan.run_cons, hstep]
      exact ⟨⟨hstop, havoids⟩, last, hrun⟩
  | @quote inList previous q text cs hq htext _ ih =>
      obtain ⟨havoids, last, hrun⟩ := ih hdepth
      have hquoted := Scan.avoids_quoted (s := behind previous depth) Scan.sparesQuotes_stopsAt rfl
        hq htext
      rw [Scan.avoids_append, Scan.run_append, Scan.run_behind_quoted hq htext]
      exact ⟨⟨hquoted, havoids⟩, last, hrun⟩
  | @list inList previous items cs _ _ ihitems ih =>
      obtain ⟨hitems, inner, hinner⟩ := @ihitems (depth + 1) fun _ => depth.succ_pos
      obtain ⟨havoids, last, hrun⟩ := ih hdepth
      have hopen : Token.stopsAt (behind previous depth) '[' = false :=
        Token.stopsAt_of_not_isBlank _ (by decide) (by decide)
      have hclose : Token.stopsAt (behind inner (depth + 1)) ']' = false := by
        rw [Scan.stopsAt_eq_false_iff rfl]
        intro hzero
        exact absurd hzero (Int.natCast_ne_zero.mpr depth.succ_ne_zero)
      rw [Scan.Avoids, Scan.run_cons, Scan.step_behind_open, Scan.avoids_append, Scan.run_append,
        hinner, Scan.Avoids, Scan.run_cons, Scan.step_behind_close]
      exact ⟨⟨hopen, hitems, hclose, havoids⟩, last, hrun⟩

/-! ## Rests of words -/

/-- A text behind `previous` is the rest of a word if as many brackets as told are open: it closes
them one after the other, and what stands between is balanced. -/
def IsRest : Nat → Option Char → List Char → Prop
  | 0, previous, cs => Balanced false previous cs
  | depth + 1, previous, cs => ∃ items rest, cs = items ++ ']' :: rest ∧
      Balanced true previous items ∧ IsRest depth (some ']') rest

namespace IsRest

variable {depth : Nat} {previous last : Option Char} {c q : Char} {front text cs : List Char}

/-- What may stand in front of any balanced text may stand in front of a rest. -/
theorem append (h : IsRest depth last cs) (hfront : ∀ (inList : Bool) (items : List Char),
    (inList = false → depth = 0) → Balanced inList last items →
      Balanced inList previous (front ++ items)) : IsRest depth previous (front ++ cs) := by
  cases depth with
  | zero => exact hfront false cs (fun _ => rfl) h
  | succ depth =>
      obtain ⟨items, rest, rfl, hitems, hrest⟩ := h
      exact ⟨front ++ items, rest, (List.append_assoc _ _ _).symm,
        hfront true items nofun hitems, hrest⟩

theorem quote (h : IsRest depth (some q) cs) (hq : opensBehind previous q) (htext : q ∉ text) :
    IsRest depth previous (quoted q text ++ cs) :=
  h.append fun _ _ _ => .quote hq htext

theorem char (h : IsRest depth (some c) cs) (hquote : opensBehind previous c = false)
    (hopen : c ≠ '[') (hclose : c ≠ ']') (hblank : depth = 0 → Text.isBlank c = false) :
    IsRest depth previous (c :: cs) := by
  rw [← List.singleton_append]
  refine h.append fun inList items hdepth hitems => .char hquote hopen hclose ?_ hitems
  intro hc
  by_contra hlist
  rw [hblank (hdepth (Bool.eq_false_iff.mpr hlist))] at hc
  cases hc

/-- The first bracket that closes closes the list that was opened last. -/
theorem openList (h : IsRest (depth + 1) (some '[') cs) : IsRest depth previous ('[' :: cs) := by
  obtain ⟨items, rest, rfl, hitems, hrest⟩ := h
  have hsplit : ∀ behind, '[' :: (items ++ ']' :: behind) = '[' :: (items ++ [']']) ++ behind := by
    simp
  rw [hsplit]
  refine hrest.append fun inList behind _ hbehind => ?_
  rw [← hsplit]
  exact .list hitems hbehind

theorem closeList (h : IsRest depth (some ']') cs) : IsRest (depth + 1) previous (']' :: cs) :=
  ⟨[], cs, rfl, .nil true previous, h⟩

end IsRest

/-- A quote that is closed again is closed where its character stands next. -/
theorem Scan.exists_quote_end {s : Scan} {q : Char} {cs : List Char} (hs : s.quote = some q)
    (h : (s.run cs).quote = none) : ∃ text rest, cs = text ++ q :: rest ∧ q ∉ text := by
  by_contra hnone
  have hmem : q ∉ cs := by
    intro hq
    obtain ⟨text, rest, hsplit, htext⟩ := List.eq_append_cons_of_mem hq
    exact hnone ⟨text, rest, hsplit, htext⟩
  have hopen : ∀ (cs : List Char) (s : Scan), s.quote = some q → q ∉ cs →
      (s.run cs).quote = some q := by
    intro cs
    induction cs with
    | nil => exact fun s hs _ => hs
    | cons c cs ih =>
        intro s hs hmem
        obtain ⟨hc, hcs⟩ := List.ne_and_not_mem_of_not_mem_cons hmem
        refine ih _ ?_ hcs
        simp [step, hs, hc.symm]
  rw [hopen cs s hs hmem] at h
  cases h

/-- What the scanner takes to the end of a word, closing all that is open, is a rest of a word. -/
theorem isRest_of_avoids {depth : Nat} {previous : Option Char} {cs : List Char}
    (havoids : (behind previous depth).Avoids Token.stopsAt cs)
    (htop : ((behind previous depth).run cs).isTop) : IsRest depth previous cs := by
  -- A quoted text is left as a whole, so the rest behind it is no direct part.
  induction hlength : cs.length using Nat.strong_induction_on generalizing depth previous cs with
  | _ n ih =>
  subst hlength
  cases cs with
  | nil =>
      obtain rfl : depth = 0 := Int.natCast_eq_zero.mp (Scan.isTop_iff.mp htop).depth
      exact .nil false previous
  | cons c cs =>
      by_cases hquote : opensBehind previous c
      · have hopens : (behind previous depth).opensQuote c := hquote
        have hclosed := (Scan.isTop_iff.mp htop).quote
        rw [Scan.run_cons, Scan.step_of_opensQuote rfl hopens] at hclosed
        obtain ⟨text, rest, rfl, htext⟩ := Scan.exists_quote_end rfl hclosed
        have hsplit : c :: (text ++ c :: rest) = quoted c text ++ rest := by simp [quoted]
        rw [hsplit, Scan.run_append, Scan.run_behind_quoted hquote htext] at htop
        rw [hsplit, Scan.avoids_append, Scan.run_behind_quoted hquote htext] at havoids
        rw [hsplit]
        exact (ih rest.length (by simp; omega) havoids.2 htop rfl).quote hquote htext
      · rw [Bool.not_eq_true] at hquote
        obtain ⟨hstop, hcs⟩ := havoids
        rw [Scan.stopsAt_eq_false_iff rfl] at hstop
        have hshorter : cs.length < (c :: cs).length := Nat.lt_succ_self _
        rw [Scan.run_cons] at htop
        by_cases hopen : c = '['
        · subst hopen
          rw [Scan.step_behind_open] at hcs htop
          exact (ih _ hshorter hcs htop rfl).openList
        · by_cases hclose : c = ']'
          · subst hclose
            cases depth with
            | zero => exact absurd rfl (hstop rfl).2
            | succ depth =>
                rw [Scan.step_behind_close] at hcs htop
                exact (ih _ hshorter hcs htop rfl).closeList
          · rw [Scan.step_behind_of_plain hquote hopen hclose] at hcs htop
            refine (ih _ hshorter hcs htop rfl).char hquote hopen hclose fun hzero => ?_
            exact (hstop (Int.natCast_eq_zero.mpr hzero)).1

/-- A word is a balanced text. -/
theorem balanced_iff {cs : List Char} : Balanced false none cs ↔
    Scan.start.Avoids Token.stopsAt cs ∧ (Scan.start.run cs).isTop := by
  constructor
  · intro h
    obtain ⟨havoids, last, hrun⟩ := @Balanced.passes _ _ _ h 0 nofun
    refine ⟨havoids, ?_⟩
    have hrun' : Scan.start.run cs = behind last 0 := hrun
    rw [hrun']
    rfl
  · rintro ⟨havoids, htop⟩
    exact @isRest_of_avoids 0 none cs havoids htop

/-! ## Words and what follows them -/

theorem Balanced.not_isBlank {previous : Option Char} {c : Char} {cs : List Char}
    (h : Balanced false previous (c :: cs)) : ¬Text.isBlank c := by
  obtain ⟨⟨hstop, -⟩, -⟩ := @Balanced.passes _ _ _ h 0 nofun
  rw [((Scan.stopsAt_eq_false_iff rfl).mp hstop rfl).1]
  exact Bool.false_ne_true

namespace Token

variable {c : Char} {cs word rest : List Char}

/-- The first word of a text is a balanced one in front of a blank or the end of the text. -/
theorem firstWord_eq_ok_iff (hc : ¬Text.isBlank c) : firstWord c cs = .ok (word, rest) ↔
    c :: cs = word ++ rest ∧ Balanced false none word ∧ EndsWord rest := by
  have hfirst : firstWord c cs = scanWord .start .none (c :: cs) := by
    have hblank : (Scan.start.isTop && Text.isBlank c) = false := by
      rw [Bool.eq_false_iff.mpr hc, Bool.and_false]
    rw [scanWord, hblank, if_neg Bool.false_ne_true, firstWord]
  rw [hfirst, scanWord_eq_ok_iff, balanced_iff, and_assoc]

example : firstWord 't' "ags:in:[a, 'b ]'] AND".toList =
    .ok ("tags:in:[a, 'b ]']".toList, " AND".toList) := by cbv

end Token

/-! ## Segmentations -/

/-- A part of a text and the number of characters before it. -/
structure Span where
  position : Nat
  chars : List Char

namespace Span

variable {cs rest word : List Char} {n : Nat} {spans : List Span} {tokens : List Token} {c : Char}

/-- The number of characters before what follows a part. -/
def stop (span : Span) : Nat :=
  span.position + span.chars.length

/-- The token of a part. -/
def token (span : Span) : Token :=
  Token.classify span.chars span.position

/-- A text behind `n` characters consists of blanks and words. -/
inductive Cover : Nat → List Char → List Span → Prop where
  | nil (n : Nat) : Cover n [] []
  | blank {n : Nat} {c : Char} {cs : List Char} {spans : List Span} :
      Text.isBlank c → Cover (n + 1) cs spans → Cover n (c :: cs) spans
  | word {n : Nat} {word rest : List Char} {spans : List Span} :
      word ≠ [] → Balanced false none word → Token.EndsWord rest →
      Cover (n + word.length) rest spans → Cover n (word ++ rest) (⟨n, word⟩ :: spans)

theorem cover_nil_iff : Cover n [] spans ↔ spans = [] := by
  constructor
  · intro h
    generalize htext : ([] : List Char) = cs at h
    cases h with
    | nil => rfl
    | blank => cases htext
    | word hne => exact absurd (List.append_eq_nil_iff.mp htext.symm).1 hne
  · rintro rfl
    exact .nil n

theorem cover_cons_of_isBlank (hc : Text.isBlank c) :
    Cover n (c :: cs) spans ↔ Cover (n + 1) cs spans := by
  constructor
  · intro h
    generalize htext : c :: cs = text at h
    cases h with
    | nil => cases htext
    | blank _ h =>
        cases htext
        exact h
    | @word _ word rest spans hne hword _ _ =>
        obtain ⟨d, word, rfl⟩ := List.exists_cons_of_ne_nil hne
        obtain ⟨rfl, -⟩ := List.cons.inj htext
        exact absurd hc hword.not_isBlank
  · exact .blank hc

theorem cover_cons_of_not_isBlank (hc : ¬Text.isBlank c) : Cover n (c :: cs) spans ↔
    ∃ word rest behind, Token.firstWord c cs = .ok (word, rest) ∧ spans = ⟨n, word⟩ :: behind ∧
      Cover (n + word.length) rest behind := by
  constructor
  · intro h
    generalize htext : c :: cs = text at h
    cases h with
    | nil => cases htext
    | blank hblank =>
        cases htext
        exact absurd hblank hc
    | @word _ word rest spans hne hword hend hrest =>
        have hfirst := (Token.firstWord_eq_ok_iff hc).mpr ⟨htext, hword, hend⟩
        exact ⟨word, rest, spans, hfirst, rfl, hrest⟩
  · rintro ⟨word, rest, behind, hfirst, rfl, hrest⟩
    obtain ⟨hsplit, hword, hend⟩ := (Token.firstWord_eq_ok_iff hc).mp hfirst
    rw [hsplit]
    refine .word ?_ hword hend hrest
    rintro rfl
    exact hc (hend c (by rw [← List.nil_append rest, ← hsplit]; rfl))

/-- The scanner finds the words of a text, and it fails if the text does not consist of words and
blanks. -/
theorem scan_eq_ok_iff {total : Nat} (htotal : n + cs.length = total) :
    Token.scan total cs = .ok tokens ↔ ∃ spans, Cover n cs spans ∧ tokens = spans.map token := by
  induction cs using Token.scan.induct generalizing n tokens with
  | case1 =>
      simp [Token.scan_nil, cover_nil_iff, eq_comm]
  | case2 c cs hc ih =>
      rw [List.length_cons] at htotal
      rw [Token.scan_cons_of_isBlank hc, ih (n := n + 1) (by omega)]
      simp only [cover_cons_of_isBlank hc]
  | case3 c cs hc e he =>
      rw [Token.scan_cons_of_fault hc he]
      constructor
      · intro h
        cases h
      · rintro ⟨spans, hcover, -⟩
        obtain ⟨word, rest, behind, hfirst, -, -⟩ := (cover_cons_of_not_isBlank hc).mp hcover
        rw [he] at hfirst
        cases hfirst
  | case4 c cs hc word rest hword _ ih =>
      have hlength := congrArg List.length (Token.append_of_firstWord hword)
      rw [List.length_append] at hlength
      rw [List.length_cons] at htotal hlength
      have hposition : total - (cs.length + 1) = n := by omega
      rw [Token.scan_cons_of_firstWord hc hword, bind_eq_ok_iff, hposition]
      constructor
      · rintro ⟨tokens', htokens, hcons⟩
        obtain ⟨behind, hbehind, rfl⟩ := (ih (n := n + word.length) (by omega)).mp htokens
        cases hcons
        exact ⟨⟨n, word⟩ :: behind,
          (cover_cons_of_not_isBlank hc).mpr ⟨word, rest, behind, hword, rfl, hbehind⟩, rfl⟩
      · rintro ⟨spans, hcover, rfl⟩
        obtain ⟨word', rest', behind, hfirst, rfl, hbehind⟩ :=
          (cover_cons_of_not_isBlank hc).mp hcover
        rw [hword] at hfirst
        cases hfirst
        exact ⟨behind.map token,
          (ih (n := n + word.length) (by omega)).mpr ⟨behind, hbehind, rfl⟩, rfl⟩

end Span

/-- From the character at `start` on, a text consists of words at their positions, which do not
touch each other, and of blanks around them. -/
structure Segmentation (cs : List Char) (start : Nat) (spans : List Span) : Prop where
  start_le : ∀ span ∈ spans, start ≤ span.position
  ne_nil : ∀ span ∈ spans, span.chars ≠ []
  balanced : ∀ span ∈ spans, Balanced false none span.chars
  standsAt : ∀ span ∈ spans, StandsAt span.chars cs span.position
  apart : spans.Pairwise fun a b => a.stop < b.position
  blank : ∀ i c, start ≤ i → cs[i]? = some c →
    (∀ span ∈ spans, ¬(span.position ≤ i ∧ i < span.stop)) → Text.isBlank c

namespace Segmentation

variable {cs rest word : List Char} {n i : Nat} {spans : List Span} {c : Char}

theorem getElem?_of_drop_eq (h : cs.drop n = rest) (hi : n ≤ i) : cs[i]? = rest[i - n]? := by
  rw [← h, List.getElem?_drop, Nat.add_sub_cancel' hi]

theorem drop_word (h : cs.drop n = word ++ rest) : cs.drop (n + word.length) = rest := by
  rw [← List.drop_drop, h, List.drop_left]

/-- A blank in front of what is cut into words is no part of any. -/
theorem cons_blank (h : Segmentation cs (n + 1) spans) (hrest : cs.drop n = c :: rest)
    (hc : Text.isBlank c) : Segmentation cs n spans where
  start_le := fun span hspan => Nat.le_of_succ_le (h.start_le span hspan)
  ne_nil := h.ne_nil
  balanced := h.balanced
  standsAt := h.standsAt
  apart := h.apart
  blank := by
    intro i d hi hd houtside
    rcases hi.eq_or_lt with rfl | hlt
    · rw [getElem?_of_drop_eq hrest le_rfl, Nat.sub_self] at hd
      cases hd
      exact hc
    · exact h.blank i d hlt hd houtside

/-- No word begins with a blank, so none begins right behind another one. -/
theorem lt_position (h : Segmentation cs n spans) (hrest : cs.drop n = rest)
    (hend : Token.EndsWord rest) : ∀ span ∈ spans, n < span.position := by
  intro span hspan
  refine lt_of_le_of_ne (h.start_le span hspan) fun htouch => ?_
  obtain ⟨c, chars, hchars⟩ := List.exists_cons_of_ne_nil (h.ne_nil span hspan)
  obtain ⟨behind, happend⟩ := h.standsAt span hspan
  rw [← htouch, hrest, hchars] at happend
  have hword := h.balanced span hspan
  rw [hchars] at hword
  exact hword.not_isBlank (hend c (by rw [← happend]; rfl))

theorem cons_word (h : Segmentation cs (n + word.length) spans) (hrest : cs.drop n = word ++ rest)
    (hne : word ≠ []) (hword : Balanced false none word) (hend : Token.EndsWord rest) :
    Segmentation cs n (⟨n, word⟩ :: spans) := by
  have hnext := drop_word hrest
  have hstands : StandsAt word cs n := by
    rw [StandsAt, hrest]
    exact List.prefix_append word rest
  have hstart : ∀ span ∈ spans, n ≤ span.position := fun span hspan =>
    (Nat.le_add_right _ _).trans (h.start_le span hspan)
  exact {
    start_le := List.forall_mem_cons.mpr ⟨le_rfl, hstart⟩
    ne_nil := List.forall_mem_cons.mpr ⟨hne, h.ne_nil⟩
    balanced := List.forall_mem_cons.mpr ⟨hword, h.balanced⟩
    standsAt := List.forall_mem_cons.mpr ⟨hstands, h.standsAt⟩
    apart := List.pairwise_cons.mpr ⟨h.lt_position hnext hend, h.apart⟩
    blank := by
      intro i c hi hc houtside
      obtain ⟨hfirst, hbehind⟩ := List.forall_mem_cons.mp houtside
      have hstop : n + word.length ≤ i := by
        by_contra hinside
        exact hfirst ⟨hi, not_le.mp hinside⟩
      exact h.blank i c hstop hc hbehind }

theorem of_cover (h : Span.Cover n rest spans) (hrest : cs.drop n = rest) :
    Segmentation cs n spans := by
  induction h with
  | nil n =>
      refine ⟨by simp, by simp, by simp, by simp, .nil, ?_⟩
      intro i c hi hc
      rw [getElem?_of_drop_eq hrest hi] at hc
      cases hc
  | @blank n c rest spans hc _ ih =>
      have hnext : cs.drop (n + 1) = rest := by
        rw [← List.drop_drop, hrest]
        rfl
      exact (ih hnext).cons_blank hrest hc
  | @word n word rest spans hne hword hend _ ih =>
      exact (ih (drop_word hrest)).cons_word hrest hne hword hend

/-! ### Taking a segmentation apart -/

theorem eq_nil_of_length_le (h : Segmentation cs n spans) (hend : cs.length ≤ n) : spans = [] := by
  by_contra hspans
  obtain ⟨span, behind, rfl⟩ := List.exists_cons_of_ne_nil hspans
  have hstands := h.standsAt span List.mem_cons_self
  have hposition := h.start_le span List.mem_cons_self
  rw [StandsAt, List.drop_eq_nil_of_le (hend.trans hposition), List.prefix_nil] at hstands
  exact h.ne_nil span List.mem_cons_self hstands

/-- Behind the first word a blank or the end of the text follows, and then the other words. -/
theorem of_cons (h : Segmentation cs n (⟨n, word⟩ :: spans)) :
    cs.drop n = word ++ cs.drop (n + word.length) ∧ Token.EndsWord (cs.drop (n + word.length)) ∧
      Segmentation cs (n + word.length) spans := by
  obtain ⟨⟨rest, hsplit⟩, hstands⟩ := List.forall_mem_cons.mp h.standsAt
  obtain ⟨hapart, haparts⟩ := List.pairwise_cons.mp h.apart
  have hnext := drop_word hsplit.symm
  have houtside : ∀ i, n + word.length ≤ i →
      (∀ span ∈ spans, ¬(span.position ≤ i ∧ i < span.stop)) →
      ∀ span ∈ (⟨n, word⟩ : Span) :: spans, ¬(span.position ≤ i ∧ i < span.stop) :=
    fun i hi hbehind =>
      List.forall_mem_cons.mpr ⟨fun hinside => absurd hinside.2 (not_lt.mpr hi), hbehind⟩
  refine ⟨by rw [hnext, hsplit], ?_, ?_⟩
  · intro c hc
    rw [List.head?_drop] at hc
    refine h.blank _ c (Nat.le_add_right _ _) hc (houtside _ le_rfl fun span hspan => ?_)
    exact fun hinside => absurd hinside.1 (not_le.mpr (hapart span hspan))
  · exact {
      start_le := fun span hspan => (hapart span hspan).le
      ne_nil := (List.forall_mem_cons.mp h.ne_nil).2
      balanced := (List.forall_mem_cons.mp h.balanced).2
      standsAt := hstands
      apart := haparts
      blank := fun i c hi hc hbehind =>
        h.blank i c ((Nat.le_add_right _ _).trans hi) hc (houtside i hi hbehind) }

/-- If the first word does not begin at the start, no other one does. -/
theorem succ_le_position (h : Segmentation cs n spans)
    (hfirst : ¬∃ word behind, spans = ⟨n, word⟩ :: behind) :
    ∀ span ∈ spans, n + 1 ≤ span.position := by
  cases spans with
  | nil => exact fun _ hspan => nomatch hspan
  | cons first behind =>
      have hposition : n < first.position := by
        refine lt_of_le_of_ne (h.start_le first List.mem_cons_self) ?_
        rintro rfl
        exact hfirst ⟨_, _, rfl⟩
      refine List.forall_mem_cons.mpr ⟨hposition, fun span hspan => ?_⟩
      have hapart := (List.pairwise_cons.mp h.apart).1 span hspan
      rw [Span.stop] at hapart
      omega

theorem toCover (h : Segmentation cs n spans) : Span.Cover n (cs.drop n) spans := by
  -- A word is left as a whole, so the induction is on the number of characters that are left.
  induction hleft : cs.length - n using Nat.strong_induction_on generalizing n spans with
  | _ left ih =>
  subst hleft
  by_cases hend : cs.length ≤ n
  · rw [List.drop_eq_nil_of_le hend, Span.cover_nil_iff]
    exact h.eq_nil_of_length_le hend
  · rw [not_le] at hend
    by_cases hfirst : ∃ word behind, spans = ⟨n, word⟩ :: behind
    · obtain ⟨word, behind, rfl⟩ := hfirst
      obtain ⟨hsplit, hends, hrest⟩ := h.of_cons
      have hne : word ≠ [] := h.ne_nil _ List.mem_cons_self
      have hlength : 0 < word.length := List.length_pos_of_ne_nil hne
      rw [hsplit]
      exact .word hne (h.balanced _ List.mem_cons_self) hends (ih _ (by omega) hrest rfl)
    · have hlater := h.succ_le_position hfirst
      have hblank : Text.isBlank cs[n] := by
        refine h.blank n _ le_rfl (List.getElem?_eq_getElem hend) fun span hspan hinside => ?_
        exact absurd hinside.1 (not_le.mpr (hlater span hspan))
      have hrest : Segmentation cs (n + 1) spans := {
        h with
        start_le := hlater
        blank := fun i c hi => h.blank i c (Nat.le_of_succ_le hi) }
      rw [List.drop_eq_getElem_cons hend]
      exact .blank hblank (ih _ (by omega) hrest rfl)

end Segmentation

/-- Keywords are kept in capitals, all other tokens as they are written. -/
def TokenKind.isKeyword : TokenKind → Bool
  | .fieldExpr | .paren | .word => false
  | .and | .or | .not | .clause _ | .by => true

theorem Span.text_token (span : Span) : span.token.text =
    if span.token.kind.isKeyword then Text.upper (String.ofList span.chars)
    else String.ofList span.chars := by
  unfold token Token.classify
  dsimp only
  split
  · rfl
  · split
    · rfl
    · split
      · rename_i kind hlookup
        have hkinds : ∀ p ∈ Token.keywords, p.2.isKeyword := by decide
        exact (if_pos (hkinds _ (Table.mem_of_lookup hlookup))).symm
      · rfl

theorem Span.position_token (span : Span) : span.token.position = span.position := by
  unfold token Token.classify
  dsimp only
  split
  · rfl
  · split
    · rfl
    · split <;> rfl

/-- A query has tokens just if it consists of words and blanks.  Then the tokens are those of the
words, one each and in their order: each stands where its word begins and keeps it as it is, a
keyword in capitals. -/
theorem Token.ofQuery_segments (query : String) (tokens : List Token) :
    (ofQuery query = .ok tokens ↔
      ∃ spans, Segmentation query.toList 0 spans ∧ tokens = spans.map Span.token) ∧
    ∀ span : Span, span.token.position = span.position ∧
      span.token.text = if span.token.kind.isKeyword then Text.upper (String.ofList span.chars)
        else String.ofList span.chars := by
  have hcover : ∀ spans, Span.Cover 0 query.toList spans ↔ Segmentation query.toList 0 spans :=
    fun spans => ⟨fun h => .of_cover h rfl, fun h => h.toCover⟩
  constructor
  · rw [ofQuery_eq_ok_iff, Span.scan_eq_ok_iff (n := 0) (Nat.zero_add _)]
    simp only [hcover]
  · exact fun span => ⟨span.position_token, span.text_token⟩

end IssueQuery
