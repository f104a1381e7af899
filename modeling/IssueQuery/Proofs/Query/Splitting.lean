import IssueQuery.Proofs.Query.Fragment
import IssueQuery.Proofs.Query.Segmentation

/-!
# Filters are split as they were scanned

A filter is scanned twice.  The first scan goes through the query and finds where the word ends.
The second one begins behind the field and its colon, as if the text began there, and cuts at
separators.  Behind a colon a quote opens just where one opens at the beginning of a text, so both
scans open and close the same quotes and brackets from there on.
-/

namespace IssueQuery

open Outcome

namespace Scan

variable {s t : Scan} {separator c : Char} {limit : Option Nat} {cs : List Char}
  {done behind : List (List Char)}

/-! ## States that see the same -/

/-- The same quote and as many brackets are open, and a single quote opens here just if it opens
there. -/
structure SeesAlike (s t : Scan) : Prop where
  quote : s.quote = t.quote
  depth : s.depth = t.depth
  admits : admitsApostrophe s.previous = admitsApostrophe t.previous

theorem SeesAlike.opensQuote (h : SeesAlike s t) (c : Char) : s.opensQuote c = t.opensQuote c := by
  rw [Scan.opensQuote, Scan.opensQuote, h.admits]

theorem SeesAlike.isTop (h : SeesAlike s t) : s.isTop = t.isTop := by
  rw [Scan.isTop, Scan.isTop, h.quote, h.depth]

theorem SeesAlike.step (h : SeesAlike s t) (c : Char) : SeesAlike (s.step c) (t.step c) := by
  cases hquote : t.quote with
  | some q =>
      have hs : s.step c = ⟨some c, if c = q then none else some q, s.depth⟩ := by
        simp only [Scan.step, h.quote, hquote]
      have ht : t.step c = ⟨some c, if c = q then none else some q, t.depth⟩ := by
        simp only [Scan.step, hquote]
      rw [hs, ht]
      exact ⟨rfl, h.depth, rfl⟩
  | none =>
      have hnone : s.quote = none := h.quote.trans hquote
      by_cases hopens : t.opensQuote c
      · rw [step_of_opensQuote hnone ((h.opensQuote c).trans hopens),
          step_of_opensQuote hquote hopens]
        exact ⟨rfl, h.depth, rfl⟩
      · rw [Bool.not_eq_true] at hopens
        rw [step_of_not_opensQuote hnone ((h.opensQuote c).trans hopens),
          step_of_not_opensQuote hquote hopens]
        exact ⟨rfl, congrArg (· + openBrackets [c]) h.depth, rfl⟩

theorem SeesAlike.run (h : SeesAlike s t) (cs : List Char) : SeesAlike (s.run cs) (t.run cs) := by
  induction cs generalizing s t with
  | nil => exact h
  | cons c cs ih => exact ih (h.step c)

/-- Behind the colon of a filter the scanner sees what it sees at the beginning of a text. -/
theorem seesAlike_behindColon : SeesAlike Token.behindColon .start where
  quote := rfl
  depth := rfl
  admits := rfl

/-! ## Cuts -/

/-- At a cut a part ends and the next one begins. -/
theorem splitFrom_cons_of_cut (h : s.cutsAt separator c) (hlimit : limit ≠ some 0)
    (cs : List Char) : s.splitFrom separator limit (c :: cs) =
      [] :: (s.step c).splitFrom separator (limit.map (· - 1)) cs := by
  rw [splitFrom, h, Bool.true_and, if_pos (decide_eq_true hlimit)]

/-- A character at which the text is not cut belongs to the part that follows it. -/
theorem splitFrom_cons_of_no_cut (h : ¬(s.cutsAt separator c ∧ limit ≠ some 0)) (cs : List Char) :
    s.splitFrom separator limit (c :: cs) =
      ((s.step c).splitFrom separator limit cs).modifyHead (c :: ·) := by
  have hcut : ¬(s.cutsAt separator c && decide (limit ≠ some 0)) = true := by
    rwa [Bool.and_eq_true, decide_eq_true_eq]
  rw [splitFrom, if_neg hcut]
  obtain ⟨part, parts, hparts⟩ :=
    List.exists_cons_of_ne_nil (splitFrom_ne_nil (s.step c) separator limit cs)
  rw [hparts]
  rfl

/-- A text in front of others is cut into `done` and a last part, and what follows the text goes on
from the state `t`: its first part is added to the last one. -/
def SplitsBehind (separator : Char) (limit : Option Nat) (s : Scan) (front : List Char) (t : Scan) :
    Prop :=
  ∃ done last, s.splitFrom separator limit front = done ++ [last] ∧
    ∀ tail, s.splitFrom separator limit (front ++ tail) =
      done ++ (t.splitFrom separator (limit.map (· - done.length)) tail).modifyHead (last ++ ·)

/-- The cuts of a text begin with those of each of its fronts. -/
theorem splitsBehind_run (separator : Char) (limit : Option Nat) (s : Scan) (front : List Char) :
    SplitsBehind separator limit s front (s.run front) := by
  induction front generalizing s limit with
  | nil =>
      refine ⟨[], [], rfl, fun tail => ?_⟩
      obtain ⟨part, parts, hparts⟩ :=
        List.exists_cons_of_ne_nil (splitFrom_ne_nil s separator limit tail)
      simp [hparts]
  | cons c front ih =>
      by_cases hcut : s.cutsAt separator c ∧ limit ≠ some 0
      · -- The limit counts the cuts that are left, so behind this one it is smaller by one.
        obtain ⟨done, last, hfront, htail⟩ := ih (limit.map (· - 1)) (s.step c)
        have hlimit : (limit.map (· - 1)).map (· - done.length) =
            limit.map (· - ([] :: done).length) := by
          rw [Option.map_map, List.length_cons, Nat.add_comm done.length]
          simp only [Function.comp_def, Nat.sub_sub]
        refine ⟨[] :: done, last, ?_, fun tail => ?_⟩
        · rw [splitFrom_cons_of_cut hcut.1 hcut.2, hfront, List.cons_append]
        · rw [List.cons_append, splitFrom_cons_of_cut hcut.1 hcut.2, htail, hlimit, run_cons,
            List.cons_append]
      · -- The character goes to the first part, which is the last one if nothing was cut.
        obtain ⟨done, last, hfront, htail⟩ := ih limit (s.step c)
        cases done with
        | nil =>
            refine ⟨[], c :: last, ?_, fun tail => ?_⟩
            · rw [splitFrom_cons_of_no_cut hcut, hfront]
              rfl
            · rw [List.cons_append, splitFrom_cons_of_no_cut hcut, htail, run_cons]
              simp only [List.nil_append, List.modifyHead_modifyHead, List.length_nil]
              rfl
        | cons part parts =>
            refine ⟨(c :: part) :: parts, last, ?_, fun tail => ?_⟩
            · rw [splitFrom_cons_of_no_cut hcut, hfront]
              rfl
            · rw [List.cons_append, splitFrom_cons_of_no_cut hcut, htail, run_cons]
              rfl

/-- Between two parts stands a separator at which the text is cut. -/
theorem cutsAt_of_splitFrom (h : s.splitFrom separator limit cs = done ++ behind)
    (hdone : done ≠ []) (hbehind : behind ≠ []) :
    ∃ after, cs = [separator].intercalate done ++ separator :: after ∧
      (s.run ([separator].intercalate done)).cutsAt separator separator := by
  induction cs generalizing s limit done with
  | nil =>
      have hlength := congrArg List.length h
      have hfirst := List.length_pos_of_ne_nil hdone
      have hsecond := List.length_pos_of_ne_nil hbehind
      rw [splitFrom, List.length_append, List.length_singleton] at hlength
      omega
  | cons c cs ih =>
      obtain ⟨first, done, rfl⟩ := List.exists_cons_of_ne_nil hdone
      by_cases hcut : s.cutsAt separator c ∧ limit ≠ some 0
      · have hc : c = separator := by
          have hcuts := hcut.1
          simp only [cutsAt, Bool.and_eq_true, decide_eq_true_eq] at hcuts
          exact hcuts.2
        subst hc
        rw [splitFrom_cons_of_cut hcut.1 hcut.2, List.cons_append] at h
        obtain ⟨rfl, hrest⟩ := List.cons.inj h
        by_cases hnil : done = []
        · subst hnil
          exact ⟨cs, by rw [List.intercalate_singleton, List.nil_append], hcut.1⟩
        · obtain ⟨after, hafter, htop⟩ := ih hrest hnil
          obtain ⟨second, done, rfl⟩ := List.exists_cons_of_ne_nil hnil
          rw [List.intercalate_cons_cons]
          exact ⟨after, congrArg (c :: ·) hafter, htop⟩
      · rw [splitFrom_cons_of_no_cut hcut] at h
        obtain ⟨part, parts, hparts⟩ :=
          List.exists_cons_of_ne_nil (splitFrom_ne_nil (s.step c) separator limit cs)
        rw [hparts, List.modifyHead_cons, List.cons_append] at h
        obtain ⟨rfl, rfl⟩ := List.cons.inj h
        have hrest : (s.step c).splitFrom separator limit cs = (part :: done) ++ behind := hparts
        obtain ⟨after, hafter, htop⟩ := ih hrest (List.cons_ne_nil _ _)
        cases done with
        | nil =>
            rw [List.intercalate_singleton] at hafter htop ⊢
            exact ⟨after, congrArg (c :: ·) hafter, htop⟩
        | cons second done =>
            rw [List.intercalate_cons_cons] at hafter htop ⊢
            exact ⟨after, congrArg (c :: ·) hafter, htop⟩

/-- Without a limit, a text is cut at each separator that stands outside quotes and brackets. -/
theorem splitFrom_append_separator (hs : (s.run cs).isTop) (hseparator : isNeutral separator)
    (tail : List Char) : s.splitFrom separator none (cs ++ separator :: tail) =
      s.splitFrom separator none cs ++
        ((s.run cs).step separator).splitFrom separator none tail := by
  obtain ⟨done, last, hfront, htail⟩ := splitsBehind_run separator none s cs
  have hnolimit : (none : Option Nat) ≠ some 0 := nofun
  rw [htail, Option.map_none,
    splitFrom_cons_of_cut (cutsAt_of_isNeutral hs hseparator) hnolimit, hfront]
  simp

end Scan

namespace Token

variable {query : String} {tokens : List Token} {token : Token} {word name rest : List Char}
  {position : Nat}

/-! ## Filters among the words of a query -/

/-- A text in front of others goes into the first word, and the rest of the word is taken from the
state `s` on.  What has been opened only shows in faults. -/
def ScansBehind (front : List Char) (s : Scan) : Prop :=
  ∃ c cs, front = c :: cs ∧ ∀ tail, ∃ o,
    firstWord c (cs ++ tail) = (scanWord s o tail).map fun p => (front ++ p.1, p.2)

theorem scansBehind_run {front : List Char} (hne : front ≠ [])
    (h : Scan.start.Avoids stopsAt front) : ScansBehind front (Scan.start.run front) := by
  obtain ⟨c, cs, rfl⟩ := List.exists_cons_of_ne_nil hne
  exact ⟨c, cs, rfl, fun tail => exists_firstWord_append tail h⟩

/-- Each token is that of a word of the query. -/
theorem exists_span_of_mem (h : ofQuery query = .ok tokens) (htoken : token ∈ tokens) :
    ∃ span : Span, token = span.token ∧ Balanced false none span.chars ∧
      StandsAt span.chars query.toList span.position := by
  rw [ofQuery_eq_ok_iff, Span.scan_eq_ok_iff (n := 0) (Nat.zero_add _)] at h
  obtain ⟨spans, hcover, rfl⟩ := h
  obtain ⟨span, hspan, rfl⟩ := List.mem_map.mp htoken
  have hsegmentation : Segmentation query.toList 0 spans := .of_cover hcover rfl
  exact ⟨span, rfl, hsegmentation.balanced span hspan, hsegmentation.standsAt span hspan⟩

/-- The word of a filter begins with a field and a colon, and is kept as it is. -/
theorem exists_name_of_classify (h : (classify word position).kind = .fieldExpr) :
    (classify word position).text = String.ofList word ∧
      ∃ name rest, word = name ++ ':' :: rest ∧ isFieldName name := by
  unfold classify at h ⊢
  dsimp only at h ⊢
  split at h
  · cases h
  · rename_i hparen
    rw [if_neg hparen]
    split at h
    · rename_i hfield
      rw [if_pos hfield]
      obtain ⟨hcolon, hname⟩ := Bool.and_eq_true_iff.mp hfield
      obtain ⟨name, rest, rfl, hfirst⟩ :=
        List.eq_append_cons_of_mem (List.contains_iff_mem.mp hcolon)
      have hne : ∀ c ∈ name, decide (c ≠ ':') = true := fun c hc =>
        decide_eq_true (ne_of_mem_of_not_mem hc hfirst)
      have hbefore : (name ++ ':' :: rest).takeWhile (· ≠ ':') = name := by
        rw [List.takeWhile_append_of_pos hne]
        simp
      rw [hbefore] at hname
      exact ⟨rfl, name, rest, rfl, hname⟩
    · split at h
      · rename_i kind hlookup
        have hkinds : ∀ p ∈ keywords, p.2 ≠ .fieldExpr := by decide
        exact absurd h (hkinds _ (Table.mem_of_lookup hlookup))
      · cases h

/-! ## Splitting a filter -/

/-- Behind `front`, a word goes on with `rest`.  The scan of the word and a split of `rest` alone
have the same quote and as many brackets open before each character of `rest` and behind it.  So
nothing is open in the end, and the split cuts at separators that the scan of the word met outside
quotes and brackets. -/
structure SplitsAsScanned (front rest : List Char) : Prop where
  inStep : ∀ before after, rest = before ++ after →
    ScansBehind (front ++ before) (Scan.start.run (front ++ before)) ∧
      (∀ separator limit,
        Scan.SplitsBehind separator limit .start before (Scan.start.run before)) ∧
      (Scan.start.run (front ++ before)).quote = (Scan.start.run before).quote ∧
      (Scan.start.run (front ++ before)).depth = (Scan.start.run before).depth
  closed : (Scan.start.run rest).isTop
  cuts_outside : ∀ separator limit done behind,
    Scan.split separator limit rest = done ++ behind → done ≠ [] → behind ≠ [] →
      ∃ after, rest = [separator].intercalate done ++ separator :: after ∧
        (Scan.start.run (front ++ [separator].intercalate done)).isTop
  cuts_all : ∀ separator before after, rest = before ++ separator :: after →
    Scan.isNeutral separator → (Scan.start.run (front ++ before)).isTop →
      ∃ parts, Scan.split separator none rest = Scan.split separator none before ++ parts

theorem splitsAsScanned_of_isFieldName (hname : isFieldName name)
    (hword : Balanced false none (name ++ ':' :: rest)) :
    SplitsAsScanned (name ++ [':']) rest := by
  have hsplit : ∀ part, name ++ ':' :: part = name ++ [':'] ++ part := by simp
  obtain ⟨havoids, htop⟩ := balanced_iff.mp hword
  obtain ⟨hfront, hcolon⟩ := avoids_of_isFieldName hname
  have halike : ∀ before,
      Scan.SeesAlike (Scan.start.run (name ++ [':'] ++ before)) (Scan.start.run before) := by
    intro before
    rw [Scan.run_append, hcolon]
    exact Scan.seesAlike_behindColon.run before
  rw [hsplit] at havoids htop
  constructor
  · rintro before after rfl
    rw [← List.append_assoc, Scan.avoids_append] at havoids
    exact ⟨scansBehind_run (by simp) havoids.1,
      fun separator limit => Scan.splitsBehind_run separator limit .start before,
      (halike before).quote, (halike before).depth⟩
  · rwa [← (halike rest).isTop]
  · intro separator limit done behind hparts hdone hbehind
    obtain ⟨after, hafter, hcut⟩ := Scan.cutsAt_of_splitFrom hparts hdone hbehind
    refine ⟨after, hafter, ?_⟩
    simp only [Scan.cutsAt, Bool.and_eq_true] at hcut
    rw [(halike _).isTop]
    exact hcut.1.1.1.1
  · rintro separator before after rfl hneutral hbefore
    rw [(halike _).isTop] at hbefore
    exact ⟨_, Scan.splitFrom_append_separator hbefore hneutral after⟩

/-- A filter is split as it was scanned, and the parts of any text give it back. -/
theorem filters_split_as_scanned :
    (∀ query tokens token, ofQuery query = .ok tokens → token ∈ tokens →
      token.kind = .fieldExpr → ∃ name rest, token.text.toList = name ++ ':' :: rest ∧
        isFieldName name ∧ StandsAt token.text.toList query.toList token.position ∧
        SplitsAsScanned (name ++ [':']) rest) ∧
    ∀ separator limit cs, [separator].intercalate (Scan.split separator limit cs) = cs := by
  refine ⟨fun query tokens token htokens htoken hkind => ?_, Scan.intercalate_splitFrom .start⟩
  obtain ⟨span, rfl, hword, hstands⟩ := exists_span_of_mem htokens htoken
  obtain ⟨htext, name, rest, hsplit, hname⟩ := exists_name_of_classify hkind
  have hchars : span.token.text.toList = span.chars := by
    rw [Span.token, htext, String.toList_ofList]
  rw [hchars, span.position_token]
  rw [hsplit] at hword
  exact ⟨name, rest, hsplit, hname, hstands, splitsAsScanned_of_isFieldName hname hword⟩

/-- The colon between quotes cuts nothing. -/
theorem filters_split_as_scanned_tags :
    ofQuery "tags:in:['a:b', c]" = .ok [⟨.fieldExpr, "tags:in:['a:b', c]", 0⟩] ∧
    Scan.split ':' none "in:['a:b', c]".toList = ["in".toList, "['a:b', c]".toList] ∧
    SplitsAsScanned "tags:".toList "in:['a:b', c]".toList := by
  have htext : "tags:in:['a:b', c]".toList = "tags".toList ++ ':' :: "in:['a:b', c]".toList := rfl
  have hquery : ofQuery "tags:in:['a:b', c]" = .ok [⟨.fieldExpr, "tags:in:['a:b', c]", 0⟩] :=
    ofQuery_of_isFieldName (by decide) htext (by decide) (by decide) (by decide)
  refine ⟨hquery, by cbv, ?_⟩
  obtain ⟨name, rest, hsplit, hname, -, h⟩ :=
    filters_split_as_scanned.1 _ _ _ hquery List.mem_cons_self rfl
  have hfield : name = "tags".toList := by
    rw [← takeWhile_of_isFieldName hname rest, ← hsplit]
    rfl
  subst hfield
  obtain rfl : rest = "in:['a:b', c]".toList :=
    (List.cons.inj (List.append_cancel_left (hsplit.symm.trans htext))).2
  exact h

end Token

end IssueQuery
