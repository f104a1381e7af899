import IssueQuery.Proofs.Outcome
import IssueQuery.Search
import IssueQuery.Source.Store
import Mathlib

/-!
# Finding the project of a search

A project is given by a number or by its name.  What looks like a number is never looked for as a
name, so an identifier is settled by its characters first, and only then by the projects of a store.
Two kinds of identifiers look like numbers and yet write none: digits without place value, and
digits next to a control that trimming takes for a blank.
-/

namespace IssueQuery

open Outcome

/-- A text is a run of decimal digits, blanks at its ends aside. -/
def Text.WritesInteger (s : String) : Prop :=
  trimChars s.toList ≠ [] ∧ ∀ c ∈ trimChars s.toList, isDecimal c

/-- A separator control stands in a text. -/
def Text.HasControl (s : String) : Prop :=
  ∃ c ∈ s.toList, isSeparatorControl c

namespace Text

variable {s : String}

/-- Decimal digits are digit signs. -/
theorem isDigitSigns_of_writesInteger (h : WritesInteger s) :
    isDigitSigns (trimChars s.toList) := by
  obtain ⟨hne, hdecimal⟩ := h
  rw [isDigitSigns, Bool.and_eq_true, List.all_eq_true]
  constructor
  · simpa using hne
  · intro c hc
    rw [isDigitSign, hdecimal c hc, Bool.true_or]

end Text

namespace Store

variable {store : Store} {name : String} {p : Record}

/-! ## Projects by name -/

/-- A project is the first one of a store with a name. -/
def IsFirstNamed (store : Store) (name : String) (p : Record) : Prop :=
  ∃ before behind, store.projects = before ++ p :: behind ∧ p.get "slug" = .string name ∧
    ∀ q ∈ before, q.get "slug" ≠ .string name

theorem isNamed_iff : isNamed name p ↔ p.get "slug" = .string name := by
  unfold isNamed
  split
  · rename_i slug hslug
    rw [hslug, beq_iff_eq, Value.string.injEq]
  · rename_i hother
    constructor
    · exact nofun
    · intro hslug
      exact absurd hslug (hother name)

theorem projectNamed?_eq_ok_iff :
    store.projectNamed? name = .ok p ↔ store.IsFirstNamed name p := by
  have hfind : store.projects.find? (isNamed name) = some p ↔ store.IsFirstNamed name p := by
    rw [List.find?_eq_some_iff_append, isNamed_iff]
    constructor
    · rintro ⟨hname, before, behind, hsplit, hbefore⟩
      refine ⟨before, behind, hsplit, hname, fun q hq hq' => ?_⟩
      simpa [isNamed_iff.mpr hq'] using hbefore q hq
    · rintro ⟨before, behind, hsplit, hname, hbefore⟩
      refine ⟨hname, before, behind, hsplit, fun q hq => ?_⟩
      rw [Bool.not_eq_true', Bool.eq_false_iff, Ne, isNamed_iff]
      exact hbefore q hq
  rw [← hfind, projectNamed?]
  cases store.projects.find? (isNamed name) with
  | none => exact ⟨nofun, nofun⟩
  | some q => rw [Except.ok.injEq, Option.some.injEq]

/-- Only objects have names. -/
theorem IsFirstNamed.exists_fields (h : store.IsFirstNamed name p) :
    ∃ fields, p.content = .object fields := by
  obtain ⟨-, -, -, hslug, -⟩ := h
  by_contra hobject
  have hnone : p.content.fields = [] := by
    unfold Value.fields
    split
    · rename_i fields hcontent
      exact absurd ⟨fields, hcontent⟩ hobject
    · rfl
  rw [Record.get, Value.get, Value.get?, hnone] at hslug
  cases hslug

variable {σ : Type}

/-- The source of a store looks names up in the store, and each time this is seen among its
calls. -/
theorem exists_projectNamed?_traced (store : Store) :
    ∃ find, (store.source (σ := σ)).traced.projectNamed? = some find ∧
      ∀ name state calls, (find name).run (state, calls) =
        (match store.projectNamed? name with
          | .ok p => .ok p.content
          | .error message => .error (.broken message),
        state, calls ++ [.projectNamed name]) := by
  refine ⟨_, rfl, fun name state calls => ?_⟩
  dsimp only
  cases store.projectNamed? name with
  | ok p => rfl
  | error message => rfl

end Store

namespace Search

variable {σ : Type} {source : RecordSource σ} {store : Store} {s : String}
  {find : String → Fetch σ Value} {project : Value} {e : SourceFailure} {state state' : σ}

/-! ## Steps of a resolution -/

/-- What looks like a number is read as one, and the source is left alone. -/
theorem run_resolveProject_of_isDigitSigns (h : Text.isDigitSigns (Text.trimChars s.toList))
    (state : σ) : (resolveProject source (.string s)).run state = (integerOf s, state) := by
  have hnumber : resolveProject source (.string s) =
      ExceptT.mk fun state => (integerOf s, state) := if_pos h
  rw [hnumber]
  rfl

theorem resolveProject_of_not_isDigitSigns
    (h : ¬Text.isDigitSigns (Text.trimChars s.toList)) (hfind : source.projectNamed? = some find) :
    resolveProject source (.string s) = lookUp find (.string s) := by
  have hname : ¬Text.isDigitSigns (Text.trimChars (Value.string s).display.toList) := h
  unfold resolveProject
  dsimp only
  rw [if_neg hname, hfind]

theorem run_lookUp_of_found (h : (find s).run state = (.ok project, state')) :
    (lookUp find (.string s)).run state = (projectId (.string s) project, state') := by
  have hcall : (find (Value.string s).display).run state = (.ok project, state') := h
  unfold lookUp
  dsimp only
  rw [run_bind, ExceptT.run_mk, hcall]
  rfl

/-- Whatever keeps a source from finding a name, the search reports that it failed. -/
theorem run_lookUp_of_failed (h : (find s).run state = (.error e, state')) :
    ∃ message, (lookUp find (.string s)).run state = (.error (.failed message), state') := by
  have hcall : (find (Value.string s).display).run state = (.error e, state') := h
  unfold lookUp
  dsimp only
  rw [run_bind, ExceptT.run_mk, hcall]
  exact ⟨_, rfl⟩

theorem integerOf_of_writesInteger (h : Text.WritesInteger s) (hcontrol : ¬Text.HasControl s) :
    integerOf s = .ok (.nat (Text.decimalValue (Text.trimChars s.toList))) := by
  have hplain : s.toList.any Text.isSeparatorControl = false := by
    rw [List.any_eq_false]
    exact fun c hc hc' => hcontrol ⟨c, hc, hc'⟩
  unfold integerOf
  dsimp only
  rw [List.all_eq_true.mpr h.2, hplain]
  rfl

theorem integerOf_eq_error (hsigns : Text.isDigitSigns (Text.trimChars s.toList))
    (h : Text.WritesInteger s → Text.HasControl s) : integerOf s = .error (.badInteger s) := by
  unfold integerOf
  dsimp only
  rw [if_neg]
  rw [Bool.and_eq_true, List.all_eq_true, Bool.not_eq_true', List.any_eq_false]
  rintro ⟨hdecimal, hplain⟩
  have hne : Text.trimChars s.toList ≠ [] := by
    rw [Text.isDigitSigns, Bool.and_eq_true] at hsigns
    simpa using hsigns.1
  obtain ⟨c, hc, hcontrol⟩ := h ⟨hne, hdecimal⟩
  exact hplain c hc hcontrol

theorem projectId_of_fields {name : Value} (h : ∃ fields, project = .object fields) :
    projectId name project = .ok ((project.get? "id").getD name) := by
  obtain ⟨fields, rfl⟩ := h
  rfl

/-! ## Resolution by a store -/

theorem run_resolveProject_of_isFirstNamed {p : Record} {calls : List SourceCall}
    (hsigns : ¬Text.isDigitSigns (Text.trimChars s.toList)) (hp : store.IsFirstNamed s p) :
    (resolveProject store.source.traced (.string s)).run (state, calls) =
      (.ok ((p.content.get? "id").getD (.string s)), state, calls ++ [.projectNamed s]) := by
  obtain ⟨find, hfind, hrun⟩ := store.exists_projectNamed?_traced (σ := σ)
  have hfound := hrun s state calls
  rw [Store.projectNamed?_eq_ok_iff.mpr hp] at hfound
  rw [resolveProject_of_not_isDigitSigns hsigns hfind, run_lookUp_of_found hfound,
    projectId_of_fields hp.exists_fields]

theorem run_resolveProject_of_not_isFirstNamed {calls : List SourceCall}
    (hsigns : ¬Text.isDigitSigns (Text.trimChars s.toList)) (hp : ∀ p, ¬store.IsFirstNamed s p) :
    ∃ message, (resolveProject store.source.traced (.string s)).run (state, calls) =
      (.error (.failed message), state, calls ++ [.projectNamed s]) := by
  obtain ⟨find, hfind, hrun⟩ := store.exists_projectNamed?_traced (σ := σ)
  have hfound := hrun s state calls
  rw [resolveProject_of_not_isDigitSigns hsigns hfind]
  cases hnamed : store.projectNamed? s with
  | ok p => exact absurd (Store.projectNamed?_eq_ok_iff.mp hnamed) (hp p)
  | error reason =>
      rw [hnamed] at hfound
      exact run_lookUp_of_failed hfound

/-- A store resolves an identifier.  A run of decimal digits without a control is the integer that
it writes, and the store is not asked.  What does not look like a number is the identifier of the
first project with this name, or the name itself if the project has no identifier; if there is no
such project, the search fails.  The rest looks like a number but writes none, and this is what the
caller is told. -/
theorem identifier_is_number_or_name (store : Store) (s : String) (state : σ)
    (calls : List SourceCall) :
    (Text.WritesInteger s → ¬Text.HasControl s →
      (resolveProject store.source.traced (.string s)).run (state, calls) =
        (.ok (.nat (Text.decimalValue (Text.trimChars s.toList))), state, calls)) ∧
    (¬Text.isDigitSigns (Text.trimChars s.toList) →
      (∀ p, store.IsFirstNamed s p →
        (resolveProject store.source.traced (.string s)).run (state, calls) =
          (.ok ((p.content.get? "id").getD (.string s)), state, calls ++ [.projectNamed s])) ∧
      ((∀ p, ¬store.IsFirstNamed s p) → ∃ message,
        (resolveProject store.source.traced (.string s)).run (state, calls) =
          (.error (.failed message), state, calls ++ [.projectNamed s]))) ∧
    (Text.isDigitSigns (Text.trimChars s.toList) → (Text.WritesInteger s → Text.HasControl s) →
      (resolveProject store.source.traced (.string s)).run (state, calls) =
        (.error (.badInteger s), state, calls)) := by
  refine ⟨?_, ?_, ?_⟩
  · intro hdigits hplain
    rw [run_resolveProject_of_isDigitSigns (Text.isDigitSigns_of_writesInteger hdigits),
      integerOf_of_writesInteger hdigits hplain]
  · intro hsigns
    exact ⟨fun p => run_resolveProject_of_isFirstNamed hsigns,
      run_resolveProject_of_not_isFirstNamed hsigns⟩
  · intro hsigns hbad
    rw [run_resolveProject_of_isDigitSigns hsigns, integerOf_eq_error hsigns hbad]

/-- Two projects share a name, and the first one is found; digits of any script are a number even if
a project has them for its name. -/
theorem identifier_is_number_or_name_shared :
    let store : Store := { projects := [⟨0, .object [("slug", .string "٤2"), ("id", .int 1)]⟩,
      ⟨1, .object [("slug", .string "web"), ("id", .int 9)]⟩,
      ⟨2, .object [("slug", .string "web"), ("id", .int 10)]⟩] }
    (resolveProject store.source.traced (.string "web")).run ((), []) =
      (.ok (.int 9), (), [.projectNamed "web"]) ∧
    (resolveProject store.source.traced (.string " ٤2")).run ((), []) =
      (.ok (.nat 42), (), []) := by
  intro store
  obtain ⟨-, hname, -⟩ := identifier_is_number_or_name store "web" () []
  obtain ⟨hnumber, -, -⟩ := identifier_is_number_or_name store " ٤2" () []
  constructor
  · have hfirst : store.IsFirstNamed "web"
        ⟨1, .object [("slug", .string "web"), ("id", .int 9)]⟩ :=
      ⟨[_], [_], rfl, rfl, by simp [Record.get, Value.get, Value.get?, Value.fields]⟩
    exact (hname (by decide)).1 _ hfirst
  · have hchars : " ٤2".toList = [' ', '٤', '2'] := rfl
    have htrim : Text.trimChars [' ', '٤', '2'] = ['٤', '2'] := by decide
    have hdigits : Text.WritesInteger " ٤2" := by
      have harabic : Text.isDecimal '٤' := by decide +kernel
      have hascii : Text.isDecimal '2' := by decide +kernel
      rw [Text.WritesInteger, hchars, htrim]
      exact ⟨nofun, List.forall_mem_cons.mpr ⟨harabic, List.forall_mem_singleton.mpr hascii⟩⟩
    have hplain : ¬Text.HasControl " ٤2" := by
      rw [Text.HasControl, hchars]
      simp [Text.isSeparatorControl]
    exact hnumber hdigits hplain

/-- Not every identifier has a value or makes the search fail.  A superscript is taken for a number,
so that the project of this name is not asked for, and digits behind a control are no integer. -/
theorem not_identifier_has_value_or_fails : ¬∀ (store : Store) (s : String),
    (∀ p ∈ store.projects, ∃ fields, p.content = .object fields) →
      ((∃ v, ((resolveProject store.source.traced (.string s)).run ((), [])).1 = .ok v) ∨
        ∃ message, ((resolveProject store.source.traced (.string s)).run ((), [])).1 =
          .error (.failed message)) ∧
      (Text.WritesInteger s → ((resolveProject store.source.traced (.string s)).run ((), [])).1 =
        .ok (.nat (Text.decimalValue (Text.trimChars s.toList)))) ∧
      (¬Text.WritesInteger s → ∀ p, store.IsFirstNamed s p →
        ((resolveProject store.source.traced (.string s)).run ((), [])).1 =
          .ok ((p.content.get? "id").getD (.string s))) := by
  intro h
  let squared : Record := ⟨0, .object [("slug", .string "²"), ("id", .int 9)]⟩
  let store : Store := { projects := [squared] }
  have hchars : "²".toList = ['²'] := rfl
  have htrim : Text.trimChars ['²'] = ['²'] := by decide
  have hordinary : ¬Text.isDecimal '²' := by decide +kernel
  have hwrites : ¬Text.WritesInteger "²" := by
    rw [Text.WritesInteger, hchars, htrim]
    exact fun hdigits => hordinary (hdigits.2 '²' (List.mem_singleton_self _))
  have hsigns : Text.isDigitSigns (Text.trimChars "²".toList) := by
    rw [hchars, htrim]
    decide +kernel
  have hrun : (resolveProject store.source.traced (.string "²")).run ((), []) =
      (.error (.badInteger "²"), (), []) := by
    rw [run_resolveProject_of_isDigitSigns hsigns,
      integerOf_eq_error hsigns fun hdigits => absurd hdigits hwrites]
  have hprojects : ∀ p ∈ store.projects, ∃ fields, p.content = .object fields := by
    intro p hp
    rw [List.mem_singleton.mp hp]
    exact ⟨_, rfl⟩
  obtain ⟨⟨v, hv⟩ | ⟨message, hfailed⟩, -, -⟩ := h store "²" hprojects
  · rw [hrun] at hv
    cases hv
  · rw [hrun] at hfailed
    cases hfailed

/-- Trimming takes a separator control for a blank; reading an integer does not. -/
theorem not_writesInteger_is_read :
    ¬∀ s : String, Text.WritesInteger s → ∃ v, integerOf s = .ok v := by
  intro h
  have hchars : "\x1c5".toList = [Char.ofNat 28, '5'] := rfl
  have htrim : Text.trimChars [Char.ofNat 28, '5'] = ['5'] := by decide
  have hdigit : Text.isDecimal '5' := by decide +kernel
  have hdigits : Text.WritesInteger "\x1c5" := by
    rw [Text.WritesInteger, hchars, htrim]
    exact ⟨nofun, List.forall_mem_singleton.mpr hdigit⟩
  have hcontrol : Text.HasControl "\x1c5" := by
    rw [Text.HasControl, hchars]
    simp [Text.isSeparatorControl]
  obtain ⟨v, hv⟩ := h "\x1c5" hdigits
  rw [integerOf_eq_error (Text.isDigitSigns_of_writesInteger hdigits) fun _ => hcontrol] at hv
  cases hv

end Search

end IssueQuery
