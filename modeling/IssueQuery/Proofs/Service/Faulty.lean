import IssueQuery.Proofs.Service.Answers

/-!
# Faulty queries never reach the source

Four front ends read a query: a search and a check of a query, each called by a program or over
HTTP.  They agree on which queries are faulty and on what they say about it, and none of them calls
the source for a faulty one.  No failure of the source is taken for a fault of the query, since the
later steps of a search have failures of their own.
-/

namespace IssueQuery

open Outcome

namespace Search

variable {σ α β : Type} {source : RecordSource σ} {now : Moment} {project name : Value}
  {kindName text : String} {text? : Option String} {settings : Settings} {q : Query}
  {fault : SyntaxError} {s : σ}

/-! ## Steps that do not blame the query -/

/-- A computation that never ends with a fault of the query. -/
def SparesQuery (x : Searching σ α) : Prop :=
  ∀ s fault, (x.run s).1 ≠ .error (.badQuery fault)

theorem SparesQuery.pure (a : α) : SparesQuery (σ := σ) (pure a) :=
  fun _ _ => nofun

/-- What is made of sparing steps is sparing. -/
theorem SparesQuery.bind {x : Searching σ α} {f : α → Searching σ β} (hx : SparesQuery x)
    (hf : ∀ a, SparesQuery (f a)) : SparesQuery (x >>= f) := by
  intro s fault
  rw [run_bind]
  have hstep := hx s fault
  rcases run_eq_ok_or_error x s with ⟨a, s', h⟩ | ⟨e, s', h⟩
  · rw [h]
    exact hf a s' fault
  · rw [h] at hstep ⊢
    intro hfault
    cases hfault
    exact hstep rfl

theorem sparesQuery_run (source : RecordSource σ) (now : Moment) (project : Value) (q : Query)
    (settings : Settings) : SparesQuery (run source now project q settings) := by
  intro s fault
  rcases run_eq_ok_or_error
    (records (waited source settings s) (permits settings) q.kind project) s with
    ⟨fetched, s', hfetched⟩ | ⟨e, s', hfailed⟩
  · rw [run_of_fetched hfetched]
    intro hfault
    obtain ⟨e, -, he⟩ := mapError_eq_error_iff.mp hfault
    cases he
  · rw [run_eq, hfailed]
    exact nofun

theorem integerOf_ne_badQuery (digits : String) : integerOf digits ≠ .error (.badQuery fault) := by
  unfold integerOf
  dsimp only
  split
  · exact nofun
  · exact nofun

theorem projectId_ne_badQuery : projectId name project ≠ .error (.badQuery fault) := by
  unfold projectId
  split
  · exact nofun
  · exact nofun

theorem sparesQuery_lookUp (find : String → Fetch σ Value) (name : Value) :
    SparesQuery (lookUp find name) := by
  refine SparesQuery.bind ?_ fun project s fault => projectId_ne_badQuery
  intro s fault hfault
  obtain ⟨e, -, he⟩ := mapError_eq_error_iff.mp hfault
  cases he

/-- Finding a project may fail in many ways, none of which is about the query. -/
theorem sparesQuery_resolveProject (source : RecordSource σ) (identifier : Value) :
    SparesQuery (resolveProject source identifier) := by
  unfold resolveProject
  split
  · exact .pure _
  · exact .pure _
  · split
    · exact fun _ _ => integerOf_ne_badQuery _
    · split
      · exact sparesQuery_lookUp _ _
      · exact .pure _

/-- A search fails with a fault of the query exactly if reading the query does. -/
theorem search_eq_badQuery_iff :
    ((search source now project kindName text? settings).run s).1 = .error (.badQuery fault) ↔
      validate kindName text? = .error (.badQuery fault) := by
  cases hread : validate kindName text? with
  | error e =>
      rw [search_of_invalid hread]
      constructor
      · intro h
        cases h
        rfl
      · intro h
        cases h
        rfl
  | ok q =>
      rw [search_of_validate hread]
      exact ⟨fun h => absurd h (sparesQuery_run _ _ _ _ _ _ _), nofun⟩

/-- A source may itself report a faulty query.  To the caller, whose query could be read, this is a
failure like any other. -/
theorem search_of_faulty_source {s' : σ} (hread : validate kindName text? = .ok q)
    (hfault : (records (waited source settings s) (permits settings) q.kind project).run s =
      (.error (.ofFault fault), s')) :
    (search source now project kindName text? settings).run s =
      (.error (.failed (failurePrefix ++ fault.message)), s') := by
  rw [search_of_validate hread, run_eq, hfault]
  rfl

theorem searchProject_of_validate (identifier : Option Value)
    (h : validate kindName (some text) = .ok q) :
    searchProject source now identifier kindName text settings =
      (match identifier with
        | some identifier => resolveProject source identifier
        | none => pure .null) >>= fun project => run source now project q settings := by
  unfold searchProject
  rw [h]
  cases identifier <;> rfl

/-- A search that finds its project first does not blame a query that can be read either. -/
theorem sparesQuery_searchProject (source : RecordSource σ) (now : Moment)
    (identifier : Option Value) (settings : Settings)
    (h : validate kindName (some text) = .ok q) :
    SparesQuery (searchProject source now identifier kindName text settings) := by
  rw [searchProject_of_validate identifier h]
  refine SparesQuery.bind ?_ fun project => sparesQuery_run source now project q settings
  cases identifier with
  | some identifier => exact sparesQuery_resolveProject source identifier
  | none => exact .pure _

end Search

namespace Service

variable {σ : Type} {service : Service σ} {p : SearchPayload} {r : ResultSet} {s : σ}

/-! ## Answers to faulty queries -/

/-- The answer to a check leaves the source alone. -/
theorem run_reply_validate {body : Value} {q : QueryPayload} (service : Service σ) (s : σ)
    (h : service.front.readQuery body = some q) :
    (service.reply .post "/api/validate" body).run s = (service.validate q, s) := by
  have hanswer : service.answer .validate body = pure (service.validate q) := by
    rw [answer, h]
  have hreply : service.reply .post "/api/validate" body = service.answer .validate body := rfl
  rw [hreply, hanswer]
  rfl

theorem status_send (front : Front) (v : Value) : (front.send v).status ≠ 400 := by
  unfold Front.send
  split
  · exact nofun
  · exact nofun

theorem status_resultReply_ne (front : Front) (q : QueryPayload) (r : ResultSet) :
    (resultReply front q r).status ≠ 400 := by
  unfold resultReply
  dsimp only
  split
  · exact status_send _ _
  · exact nofun

/-- The caller is to blame for the faults of queries only. -/
theorem status_errorReply {e : SearchError} (h : (errorReply e).status = 400) :
    ∃ fault, e = .badQuery fault := by
  cases e with
  | badQuery fault => exact ⟨fault, rfl⟩
  | _ => cases h

/-- A check refuses exactly the queries that cannot be read. -/
theorem status_validate_eq_400_iff (service : Service σ) (q : QueryPayload) :
    (service.validate q).status = 400 ↔
      ∃ e, Search.validate q.kind.plural (some q.query) = .error e := by
  unfold validate
  cases hread : Search.validate q.kind.plural (some q.query) with
  | error e =>
      obtain ⟨fault, rfl⟩ := Search.exists_badQuery_of_validate hread
      exact ⟨fun _ => ⟨_, rfl⟩, fun _ => rfl⟩
  | ok q =>
      constructor
      · intro h
        exact absurd h (status_send _ _)
      · rintro ⟨e, he⟩
        cases he

theorem run_search_of_invalid {e : SearchError} (service : Service σ) (s : σ)
    (h : Search.validate p.kind.plural (some p.query) = .error e) :
    (service.search p).run s = (service.validate p.toQueryPayload, s) := by
  unfold validate
  rw [run_search, Search.searchProject_of_invalid h, h]

/-- A search refuses exactly the same queries. -/
theorem status_search_eq_400_iff (service : Service σ) (p : SearchPayload) (s : σ) :
    ((service.search p).run s).1.status = 400 ↔
      ∃ e, Search.validate p.kind.plural (some p.query) = .error e := by
  cases hread : Search.validate p.kind.plural (some p.query) with
  | error e =>
      rw [run_search_of_invalid service s hread, status_validate_eq_400_iff, hread]
  | ok q =>
      constructor
      · intro hstatus
        have hspares := Search.sparesQuery_searchProject service.source service.now
          (some p.project) service.settings hread s
        rw [run_search] at hstatus
        rcases run_eq_ok_or_error (Search.searchProject service.source service.now (some p.project)
          p.kind.plural p.query service.settings) s with ⟨r, s', h⟩ | ⟨e, s', h⟩
        · rw [h] at hstatus
          exact absurd hstatus (status_resultReply_ne _ _ _)
        · rw [h] at hstatus hspares
          obtain ⟨fault, rfl⟩ := status_errorReply hstatus
          exact absurd rfl (hspares fault)
      · rintro ⟨e, he⟩
        cases he

/-- A query is faulty for a search exactly if it is for a check, with the same report, and the
source has not been called then.  The same holds over HTTP, where both answer 400 with the same
body, and not even the name of the project has been looked up. -/
theorem faulty_query_never_reaches_source (source : RecordSource σ) (settings : Settings)
    (front : Front) (now : Moment) (s : σ) (calls : List SourceCall) :
    (∀ project kindName text? fault,
      (((Search.search source.traced now project kindName text? settings).run (s, calls)).1 =
          .error (.badQuery fault) ↔
        Search.validate kindName text? = .error (.badQuery fault)) ∧
      (Search.validate kindName text? = .error (.badQuery fault) →
        (Search.search source.traced now project kindName text? settings).run (s, calls) =
          (.error (.badQuery fault), (s, calls)))) ∧
    ∀ body body' p, front.readSearch body = some p →
      front.readQuery body' = some p.toQueryPayload →
      ∃ found checked after,
        (reply { source := source.traced, settings, now, front } .post "/api/search" body).run
          (s, calls) = (found, after) ∧
        (reply { source := source.traced, settings, now, front } .post "/api/validate" body').run
          (s, calls) = (checked, (s, calls)) ∧
        (found.status = 400 ↔ checked.status = 400) ∧
        (found.status = 400 → found = checked ∧ after = (s, calls)) := by
  constructor
  · intro project kindName text? fault
    exact ⟨Search.search_eq_badQuery_iff, Search.search_of_invalid⟩
  · intro body body' p hbody hbody'
    rw [run_reply_search _ _ hbody, run_reply_validate _ _ hbody']
    have hfound := status_search_eq_400_iff
      { source := source.traced, settings, now, front } p (s, calls)
    have hchecked := status_validate_eq_400_iff
      { source := source.traced, settings, now, front } p.toQueryPayload
    refine ⟨_, _, _, (Prod.eta _).symm, rfl, hfound.trans hchecked.symm, ?_⟩
    intro hstatus
    obtain ⟨e, he⟩ := hfound.mp hstatus
    rw [run_search_of_invalid _ _ he]
    simp only [and_self]

theorem faulty_query_never_reaches_source_down :
    (Search.search (Outage.applyTo { listing := some (.broken "down") } (Store.source {})).traced
        ⟨.first, .midnight, .utc⟩ (.string "web") "issues" (some "x")).run ((), []) =
      (.error (.badQuery (⟨.unexpectedToken, some "x", some 0⟩)), ((), [])) ∧
    ∃ answer, (reply {
          source := (Outage.applyTo { listing := some (.broken "down") } (Store.source {})).traced
          settings := {}
          now := ⟨.first, .midnight, .utc⟩ } .post "/api/search"
        (.object [("project", .string "web"), ("query", .string "x")])).run ((), []) =
          (answer, ((), [])) ∧ answer.status = 400 := by
  have htoken : Token.ofQuery "x" = .ok [⟨.word, "x", 0⟩] := by
    rw [Token.ofQuery_of_isPlain (by decide) (by decide)]
    cbv
  have hread : Search.validate "issues" (some "x") =
      .error (.badQuery ⟨.unexpectedToken, some "x", some 0⟩) := by
    have hkind : Query.readKind "issues" = .ok .issue := by cbv
    have hblank : ¬Text.isBlankText "x" := by decide
    rw [Search.validate, Query.readNamed, hkind, ok_bind]
    dsimp only
    rw [Query.read, if_neg hblank, htoken, ok_bind]
    rfl
  have hbody : SearchPayload.ofBody?
      (.object [("project", .string "web"), ("query", .string "x")]) =
        some ⟨⟨.issue, "x"⟩, .string "web"⟩ := by
    cbv
  have hbody' := Front.usual.readQuery_of_readSearch _ _ hbody
  obtain ⟨hsearch, hservice⟩ := faulty_query_never_reaches_source
    (Outage.applyTo { listing := some (.broken "down") } (Store.source {})) {} .usual
    ⟨.first, .midnight, .utc⟩ () []
  obtain ⟨found, checked, after, hfound, hchecked, hiff, hboth⟩ := hservice _ _ _ hbody hbody'
  rw [run_reply_validate _ _ hbody', Prod.mk.injEq] at hchecked
  have hstatus : found.status = 400 := by
    rw [hiff, ← hchecked.1, status_validate_eq_400_iff]
    exact ⟨_, hread⟩
  rw [(hboth hstatus).2] at hfound
  exact ⟨(hsearch _ _ _ _).2 hread, found, hfound, hstatus⟩

end Service

end IssueQuery
