import IssueQuery.Proofs.Query.Word
import IssueQuery.Query.Literal

/-!
# Quoted texts and separators

A text between two quotes of one kind is opaque: whatever it consists of, the scanner leaves it in
the state in which it met the first quote.  So no test that only looks outside quotes can tell such
a text from another, neither the one that ends words nor those that cut at separators.  With this, a
text is cut exactly where its parts were put together.
-/

namespace IssueQuery

/-- A text between two quotes. -/
def Literal.quoted (q : Char) (text : List Char) : List Char :=
  q :: (text ++ [q])

namespace Scan

open Literal (quoted)

variable {s : Scan} {c q sep : Char} {a b cs text : List Char} {p : Scan → Char → Bool}
  {depth : Int}

/-! ## Quoted texts -/

/-- A test that holds neither of a quote that opens nor of anything behind it. -/
structure SparesQuotes (p : Scan → Char → Bool) : Prop where
  opening : ∀ s c, s.opensQuote c → p s c = false
  inside : ∀ s c, s.quote.isSome → p s c = false

theorem run_inside_quote (hs : s.quote = some q) (h : q ∉ text) :
    s.run (text ++ [q]) = ⟨some q, none, s.depth⟩ := by
  induction text generalizing s with
  | nil => simp [step, hs]
  | cons c text ih =>
      obtain ⟨hc, htext⟩ := List.ne_and_not_mem_of_not_mem_cons h
      have hstep : s.step c = ⟨some c, some q, s.depth⟩ := by
        simp [step, hs, hc.symm]
      rw [List.cons_append, run_cons, hstep, ih rfl htext]

theorem avoids_inside_quote (hp : SparesQuotes p) (hs : s.quote = some q) (h : q ∉ text) :
    s.Avoids p (text ++ [q]) := by
  induction text generalizing s with
  | nil =>
      have hclose : p s q = false := hp.inside s q (by simp [hs])
      exact ⟨hclose, avoids_nil p _⟩
  | cons c text ih =>
      obtain ⟨hc, htext⟩ := List.ne_and_not_mem_of_not_mem_cons h
      have hinside : p s c = false := hp.inside s c (by simp [hs])
      have hstep : (s.step c).quote = some q := by
        simp [step, hs, hc.symm]
      exact ⟨hinside, ih hstep htext⟩

theorem step_of_opensQuote (hs : s.quote = none) (hq : s.opensQuote q) :
    s.step q = ⟨some q, some q, s.depth⟩ := by
  simp [step, hs, hq]

/-- Behind a quoted text as much is open as before it. -/
theorem run_quoted (hs : s.quote = none) (hq : s.opensQuote q) (h : q ∉ text) :
    s.run (quoted q text) = ⟨some q, none, s.depth⟩ := by
  rw [quoted, run_cons, step_of_opensQuote hs hq, run_inside_quote rfl h]

theorem avoids_quoted (hp : SparesQuotes p) (hs : s.quote = none) (hq : s.opensQuote q)
    (h : q ∉ text) : s.Avoids p (quoted q text) := by
  refine ⟨hp.opening s q hq, ?_⟩
  rw [step_of_opensQuote hs hq]
  exact avoids_inside_quote hp rfl h

theorem opensQuote_double (s : Scan) : s.opensQuote '"' := by
  simp [opensQuote]

theorem sparesQuotes_stopsAt : SparesQuotes Token.stopsAt where
  opening := by
    intro s c hc
    simp only [opensQuote, Bool.or_eq_true, Bool.and_eq_true, decide_eq_true_eq] at hc
    have hquote : c = '"' ∨ c = '\'' := hc.imp_right And.left
    apply Token.stopsAt_of_not_isBlank
    all_goals rcases hquote with rfl | rfl <;> decide
  inside := by
    intro s c hs
    have hquote : s.quote.isNone = false := by simpa using hs
    simp [Token.stopsAt, Token.closesNothing, isTop, hquote]

/-! ## Texts that leave nothing open -/

/-- No quote is open, and `depth` brackets are. -/
structure IsAt (s : Scan) (depth : Int) : Prop where
  quote : s.quote = none
  depth : s.depth = depth

theorem isTop_iff : s.isTop ↔ s.IsAt 0 := by
  constructor
  · intro h
    simp only [isTop, Bool.and_eq_true, Option.isNone_iff_eq_none, decide_eq_true_eq] at h
    exact ⟨h.1, h.2⟩
  · intro h
    simp [isTop, h.quote, h.depth]

/-- Wherever no quote and `depth` brackets are open, `p` holds nowhere in the text, and behind the
text as much is open as before it. -/
structure Passes (p : Scan → Char → Bool) (depth : Int) (cs : List Char) : Prop where
  avoids : ∀ s : Scan, s.IsAt depth → s.Avoids p cs
  isAt : ∀ s : Scan, s.IsAt depth → (s.run cs).IsAt depth

theorem passes_append (ha : Passes p depth a) (hb : Passes p depth b) :
    Passes p depth (a ++ b) where
  avoids := by
    intro s hs
    rw [avoids_append]
    exact ⟨ha.avoids s hs, hb.avoids _ (ha.isAt s hs)⟩
  isAt := by
    intro s hs
    rw [run_append]
    exact hb.isAt _ (ha.isAt s hs)

theorem passes_of_isNeutral (hneutral : ∀ c ∈ cs, isNeutral c)
    (hp : ∀ s : Scan, s.IsAt depth → ∀ c ∈ cs, p s c = false) : Passes p depth cs where
  avoids := by
    intro s hs
    induction cs generalizing s with
    | nil => exact avoids_nil p s
    | cons c cs ih =>
        obtain ⟨hc, hcs⟩ := List.forall_mem_cons.mp hneutral
        have hstep : (s.step c).IsAt depth := by
          rw [step_of_isNeutral hs.quote hc]
          exact ⟨hs.quote, hs.depth⟩
        refine ⟨hp s hs c List.mem_cons_self, ?_⟩
        exact ih hcs (fun t ht d hd => hp t ht d (List.mem_cons_of_mem c hd)) _ hstep
  isAt := by
    intro s hs
    rw [run_of_isNeutral hs.quote hneutral]
    exact ⟨hs.quote, hs.depth⟩

theorem passes_quoted (hp : SparesQuotes p) (h : '"' ∉ text) :
    Passes p depth (quoted '"' text) where
  avoids := by
    intro s hs
    exact avoids_quoted hp hs.quote (opensQuote_double s) h
  isAt := by
    intro s hs
    rw [run_quoted hs.quote (opensQuote_double s) h]
    exact ⟨rfl, hs.depth⟩

theorem passes_intercalate {separator : List Char} {parts : List (List Char)}
    (hseparator : Passes p depth separator) (h : ∀ part ∈ parts, Passes p depth part) :
    Passes p depth (separator.intercalate parts) := by
  induction parts with
  | nil => exact passes_of_isNeutral (by simp) (by simp)
  | cons part parts ih =>
      obtain ⟨hpart, hparts⟩ := List.forall_mem_cons.mp h
      by_cases hnil : parts = []
      · rw [hnil, List.intercalate_singleton]
        exact hpart
      · obtain ⟨next, rest, rfl⟩ := List.exists_cons_of_ne_nil hnil
        rw [List.intercalate_cons_cons]
        exact passes_append (passes_append hpart hseparator) (ih hparts)

/-! ## Cuts -/

/-- Whether a text is cut at `c`. -/
def cuts (sep : Char) (s : Scan) (c : Char) : Bool :=
  s.cutsAt sep c

theorem sparesQuotes_cuts (sep : Char) : SparesQuotes (cuts sep) where
  opening := by
    intro s c hc
    simp [cuts, cutsAt, hc]
  inside := by
    intro s c hs
    have hquote : s.quote.isNone = false := by simpa using hs
    simp [cuts, cutsAt, isTop, hquote]

theorem cuts_of_ne (s : Scan) (h : c ≠ sep) : cuts sep s c = false := by
  simp [cuts, cutsAt, h]

theorem avoids_cuts_of_not_mem (s : Scan) (h : sep ∉ cs) : s.Avoids (cuts sep) cs := by
  induction cs generalizing s with
  | nil => exact avoids_nil _ s
  | cons c cs ih =>
      obtain ⟨hc, hcs⟩ := List.ne_and_not_mem_of_not_mem_cons h
      exact ⟨cuts_of_ne s hc.symm, ih _ hcs⟩

theorem cutsAt_of_isNeutral (hs : s.isTop) (h : isNeutral sep) : s.cutsAt sep sep := by
  simp only [isNeutral, Bool.and_eq_true, decide_eq_true_eq] at h
  obtain ⟨⟨⟨hdouble, hsingle⟩, hopen⟩, hclose⟩ := h
  simp [cutsAt, opensQuote, hs, hdouble, hsingle, hopen, hclose]

/-- A text without a cut is its only part. -/
theorem splitFrom_of_avoids {limit : Option Nat} (h : s.Avoids (cuts sep) cs) :
    s.splitFrom sep limit cs = [cs] := by
  induction cs generalizing s with
  | nil => rfl
  | cons c cs ih =>
      obtain ⟨hc, hcs⟩ := h
      have hnocut : s.cutsAt sep c = false := hc
      rw [splitFrom, hnocut, Bool.false_and, if_neg Bool.false_ne_true, ih hcs]

/-- With no cuts left, a text is its only part. -/
theorem splitFrom_zero (s : Scan) (sep : Char) (cs : List Char) :
    s.splitFrom sep (some 0) cs = [cs] := by
  induction cs generalizing s with
  | nil => rfl
  | cons c cs ih => simp [splitFrom, ih]

/-- The first cut ends the first part. -/
theorem splitFrom_append {limit : Option Nat} (b : List Char) (h : s.Avoids (cuts sep) a)
    (hcut : (s.run a).cutsAt sep sep) (hlimit : limit ≠ some 0) :
    s.splitFrom sep limit (a ++ sep :: b) =
      a :: ((s.run a).step sep).splitFrom sep (limit.map (· - 1)) b := by
  induction a generalizing s with
  | nil =>
      have hfirst : s.cutsAt sep sep = true := hcut
      rw [List.nil_append, splitFrom, hfirst, run_nil]
      simp [hlimit]
  | cons c a ih =>
      obtain ⟨hc, ha⟩ := h
      have hnocut : s.cutsAt sep c = false := hc
      rw [List.cons_append, splitFrom, hnocut, Bool.false_and, if_neg Bool.false_ne_true,
        ih ha hcut, run_cons]

theorem partition_of_avoids (h : start.Avoids (cuts sep) cs) : partition sep cs = (cs, none) := by
  rw [partition, split, splitFrom_of_avoids h]

theorem partition_append (b : List Char) (h : start.Avoids (cuts sep) a)
    (hcut : (start.run a).cutsAt sep sep) : partition sep (a ++ sep :: b) = (a, some b) := by
  have hparts : start.splitFrom sep (some 1) (a ++ sep :: b) =
      [a, b] := by
    rw [splitFrom_append b h hcut (by simp), Option.map_some, splitFrom_zero]
  rw [partition, split, hparts]

/-- Without quotes and brackets, the first separator cuts the text. -/
theorem partition_of_isNeutral (hsep : isNeutral sep) (h : ∀ c ∈ cs, isNeutral c) :
    (partition sep cs).1 = cs.takeWhile (· ≠ sep) := by
  by_cases hmem : sep ∈ cs
  · obtain ⟨a, b, rfl, ha⟩ := List.eq_append_cons_of_mem hmem
    have hneutral : ∀ c ∈ a, isNeutral c := fun c hc => h c (List.mem_append_left _ hc)
    have htop : (start.run a).isTop := by
      rw [run_of_isNeutral rfl hneutral]
      rfl
    have hne : ∀ c ∈ a, decide (c ≠ sep) = true := by
      intro c hc
      apply decide_eq_true
      rintro rfl
      exact ha hc
    rw [partition_append b (avoids_cuts_of_not_mem _ ha) (cutsAt_of_isNeutral htop hsep),
      List.takeWhile_append_of_pos hne]
    simp
  · have hne : ∀ c ∈ cs, decide (c ≠ sep) = true := by
      intro c hc
      apply decide_eq_true
      rintro rfl
      exact hmem hc
    rw [partition_of_avoids (avoids_cuts_of_not_mem _ hmem), List.takeWhile_eq_self_iff.mpr hne]

/-- Parts that leave nothing open and are not cut themselves are found again between the
separators. -/
theorem splitFrom_intercalate {parts : List (List Char)} (hs : s.isTop) (hsep : isNeutral sep)
    (hne : parts ≠ []) (h : ∀ part ∈ parts, Passes (cuts sep) 0 part) :
    s.splitFrom sep none ([sep].intercalate parts) = parts := by
  induction parts generalizing s with
  | nil => exact absurd rfl hne
  | cons part parts ih =>
      obtain ⟨hpart, hparts⟩ := List.forall_mem_cons.mp h
      have havoids := hpart.avoids s (isTop_iff.mp hs)
      have hat := hpart.isAt s (isTop_iff.mp hs)
      by_cases hnil : parts = []
      · rw [hnil, List.intercalate_singleton]
        exact splitFrom_of_avoids havoids
      · obtain ⟨next, rest, rfl⟩ := List.exists_cons_of_ne_nil hnil
        have hbehind : ((s.run part).step sep).isTop := by
          rw [step_of_isNeutral hat.quote hsep]
          exact isTop_iff.mpr ⟨hat.quote, hat.depth⟩
        rw [List.intercalate_cons_cons, List.append_assoc, List.singleton_append,
          splitFrom_append _ havoids (cutsAt_of_isNeutral (isTop_iff.mpr hat) hsep) (by simp),
          Option.map_none, ih hbehind hnil hparts]

end Scan

/-- Whatever stands in quotes of one kind is read as it stands. -/
theorem Literal.readScalar_quoted {q : Char} {text : List Char} (position : Nat)
    (hq : q = '"' ∨ q = '\'') (h : q ∉ text) :
    readScalar (quoted q text) position = .ok (.string (String.ofList text)) := by
  have hquote : openingQuote? (quoted q text) = some q := by
    rcases hq with rfl | rfl <;> rfl
  have hinside : inside (quoted q text) = text := by
    simp [inside, quoted]
  have hlast : (quoted q text).getLast? = some q := by
    simp [quoted, List.getLast?_cons]
  have hlength : ¬(quoted q text).length < 2 := by
    simp [quoted]
  have hclosed : (decide ((quoted q text).length < 2) || decide ((quoted q text).getLast? ≠ some q)
      || (inside (quoted q text)).contains q) = false := by
    simp [hlength, hlast, hinside, h]
  rw [readScalar, hquote]
  dsimp only
  rw [hclosed, if_neg Bool.false_ne_true, hinside]

end IssueQuery
