import IssueQuery.Proofs.Query.Appending
import IssueQuery.Proofs.Query.Joining
import IssueQuery.Proofs.Search.Outcome

/-!
# What a request for a search is answered with

The answer follows from how the search ends: a result is sent back, a faulty query is described,
and what is neither the caller's fault nor that of the source is only owned up to.
-/

namespace IssueQuery

open Outcome

namespace Service

variable {σ : Type} {service : Service σ} {p : SearchPayload} {r : ResultSet} {s : σ}

/-! ## Steps of an answer -/

theorem run_reply_search {body : Value} (service : Service σ) (s : σ)
    (h : service.front.readSearch body = some p) :
    (service.reply .post "/api/search" body).run s = (service.search p).run s := by
  have hanswer : service.answer .search body = service.search p := by
    rw [answer, h]
  have hreply : service.reply .post "/api/search" body = service.answer .search body := rfl
  rw [hreply, hanswer]

/-- The answer to a search is that to its result or to its failure. -/
theorem run_search (service : Service σ) (p : SearchPayload) (s : σ) :
    (service.search p).run s =
      match (Search.searchProject service.source service.now (some p.project) p.kind.plural
        p.query service.settings).run s with
      | (.ok r, s') => (resultReply service.front p.toQueryPayload r, s')
      | (.error e, s') => (errorReply e, s') := by
  rw [search, StateT.run_bind, StateT.run]
  rcases run_eq_ok_or_error (Search.searchProject service.source service.now (some p.project)
    p.kind.plural p.query service.settings) s with ⟨r, s', h⟩ | ⟨e, s', h⟩
  · rw [h]
    rfl
  · rw [h]
    rfl

/-! ## Answers to results -/

theorem exists_fields_of_mem_toValues {entries : Entries}
    (h : ∀ x ∈ entries.content, ∃ fields, x.content = .object fields) {v : Value}
    (hv : v ∈ entries.toValues) : ∃ fields, v = .object fields := by
  cases entries with
  | records items =>
      obtain ⟨x, hx, rfl⟩ := List.mem_map.mp hv
      exact h x hx
  | groups items =>
      obtain ⟨g, -, rfl⟩ := List.mem_map.mp hv
      exact ⟨_, rfl⟩

/-- Entries that are objects are sent back if that can be done. -/
theorem status_resultReply (front : Front) (q : QueryPayload)
    (h : ∀ x ∈ r.entries.content, ∃ fields, x.content = .object fields) :
    (resultReply front q r).status = 200 ∨
      (resultReply front q r).status = 500 ∧ front.sends (resultValue q r) = false := by
  have hreply : resultReply front q r = front.send (resultValue q r) := by
    rw [resultReply, if_pos]
    rw [List.all_eq_true]
    intro v hv
    obtain ⟨fields, rfl⟩ := exists_fields_of_mem_toValues h hv
    rfl
  rw [hreply, Front.send]
  split
  · exact Or.inl rfl
  · rename_i hunsent
    exact Or.inr ⟨rfl, Bool.eq_false_iff.mpr hunsent⟩

/-! ## Searches on stored records -/

/-- A search on stored objects gives a result or shows a fault of the query, unless a search for
tasks runs out of time or a filter asks for a moment outside the calendar.  Over HTTP such a search
answers 200 or 400, and 502 if it runs out of time.  It breaks down where the calendar is left, or
where the result is one that cannot be sent. -/
theorem stored_search_breaks_only_beyond_calendar (store : Store) (pace : Pace σ)
    (settings : Settings) (front : Front) (now : Moment) (s : σ) (hobjects : store.HoldsObjects) :
    (∀ project kindName text?, ∃ answer s',
      (Search.search (store.source.paced pace) now project kindName text? settings).run s =
        (answer, s') ∧
      ((∃ r, answer = .ok r) ∨ (∃ e, answer = .error (.badQuery e)) ∨
        ∃ q, Search.validate kindName text? = .ok q ∧
          (answer = .error (.failed Search.timeoutMessage) ∧ q.kind = .task ∧
              pace.Overruns settings.queryTimeout s ∨
            ∃ e, answer = .error (.badTime e) ∧ ∃ c ∈ q.filters, c.LeavesCalendar now e))) ∧
    ∀ body p n, front.readSearch body = some p → p.project = .int n →
      ∃ answer s',
        (reply { source := store.source.paced pace, settings, now, front } .post "/api/search"
          body).run s = (answer, s') ∧
        (answer.status = 200 ∨ answer.status = 400 ∨
          (answer.status = 502 ∧ p.kind = .task ∧ pace.Overruns settings.queryTimeout s) ∨
          answer.status = 500 ∧
            ((∃ q e, Search.validate p.kind.plural (some p.query) = .ok q ∧
                ∃ c ∈ q.filters, c.LeavesCalendar now e) ∨
              ∃ r, (Search.search (store.source.paced pace) now (.int n) p.kind.plural
                  (some p.query) settings).run s = (.ok r, s') ∧
                front.sends (resultValue p.toQueryPayload r) = false)) := by
  constructor
  · intro project kindName text?
    cases hread : Search.validate kindName text? with
    | error e =>
        obtain ⟨fault, rfl⟩ := Search.exists_badQuery_of_validate hread
        exact ⟨_, s, Search.search_of_invalid hread, Or.inr (Or.inl ⟨fault, rfl⟩)⟩
    | ok q =>
        obtain ⟨answer, s', hrun, hcases⟩ :=
          Search.run_store hobjects pace settings now project q s
        refine ⟨answer, s', by rw [Search.search_of_validate hread, hrun], ?_⟩
        rcases hcases with hok | ⟨e, he, hleaves⟩ | hlate
        · exact Or.inl (hok.imp fun _ h => h.1)
        · exact Or.inr (Or.inr ⟨q, rfl, Or.inr ⟨e, he, hleaves⟩⟩)
        · exact Or.inr (Or.inr ⟨q, rfl, Or.inl hlate⟩)
  · intro body p n hbody hproject
    rw [run_reply_search _ _ hbody, run_search]
    dsimp only
    rw [hproject, Search.searchProject_int]
    cases hread : Search.validate p.kind.plural (some p.query) with
    | error e =>
        obtain ⟨fault, rfl⟩ := Search.exists_badQuery_of_validate hread
        rw [Search.search_of_invalid hread]
        exact ⟨_, s, rfl, Or.inr (Or.inl rfl)⟩
    | ok q =>
        have hkind : q.kind = p.kind :=
          Search.readKind_of_validate (by cases p.kind <;> rfl) hread
        obtain ⟨answer, s', hrun, hcases⟩ :=
          Search.run_store hobjects pace settings now (.int n) q s
        rw [Search.search_of_validate hread, hrun]
        rcases hcases with ⟨r, rfl, hmade⟩ | ⟨e, rfl, hleaves⟩ | ⟨rfl, htask, hlate⟩
        · refine ⟨_, s', rfl, ?_⟩
          rcases status_resultReply front p.toQueryPayload fun x hx =>
            hobjects.of_listed (ResultSet.mem_of_mem_content hmade hx) with
            hok | ⟨hbroken, hunsent⟩
          · exact Or.inl hok
          · exact Or.inr (Or.inr (Or.inr ⟨hbroken, Or.inr ⟨r, rfl, hunsent⟩⟩))
        · exact ⟨_, s', rfl, Or.inr (Or.inr (Or.inr ⟨rfl, Or.inl ⟨q, e, rfl, hleaves⟩⟩))⟩
        · exact ⟨_, s', rfl, Or.inr (Or.inr (Or.inl ⟨rfl, hkind ▸ htask, hlate⟩))⟩

theorem stored_search_answers_integer_project :
    ∃ answer s', (reply {
        source := Store.source { issues := [⟨0, .object [("subject", .string "a")]⟩] }
        settings := {}
        now := ⟨.first, .midnight, .utc⟩ } .post "/api/search"
      (.object [("project", .int 1), ("query", .string "subject:exists"),
        ("type", .string "issues")])).run () = (answer, s') ∧
      (answer.status = 200 ∨ answer.status = 400) := by
  have hobjects : Store.HoldsObjects { issues := [⟨0, .object [("subject", .string "a")]⟩] } := {
    issues := by simp
    userStories := by simp
    tasks := by simp }
  have hbody := Front.usual.readSearch_object 1 .issue "subject:exists" (by decide)
  have htoken : Token.ofQuery "subject:exists" = .ok [⟨.fieldExpr, "subject:exists", 0⟩] := by
    rw [Token.ofQuery_of_isPlain (by decide) (by decide)]
    cbv
  have hclause : FilterClause.ofToken .issue ⟨.fieldExpr, "subject:exists", 0⟩ =
      .ok ⟨"subject", Relation.exists.holds, .null⟩ := by
    cbv
  have hkind : Query.readKind EntityKind.issue.plural = .ok .issue := by cbv
  have hvalid := Search.validate_eq_ok_iff.mpr
    ⟨.issue, hkind, Query.read_of_ofToken htoken rfl hclause⟩
  obtain ⟨answer, s', hanswer, hstatus⟩ := (stored_search_breaks_only_beyond_calendar _ .instant {}
    .usual ⟨.first, .midnight, .utc⟩ () hobjects).2 _ _ 1 hbody rfl
  refine ⟨answer, s', hanswer, hstatus.imp_right fun hstatus => hstatus.resolve_right ?_⟩
  rintro (⟨-, htask, -⟩ | ⟨-, ⟨q, e, hq, c, hc, hleaves⟩ | ⟨r, hr, hunsent⟩⟩)
  · cases htask
  · -- The only filter has no operand, so it names no moment at all.
    rw [hvalid] at hq
    cases hq
    obtain rfl := List.mem_singleton.mp hc
    cases hleaves with
    | keyword hv hk =>
        obtain rfl := List.mem_singleton.mp hv
        cases hk
    | upcoming hfield => exact absurd hfield (by decide)
  · obtain ⟨r', hmade, hsent⟩ : ∃ r', ResultSet.ofRecords ⟨.issue, [⟨"subject",
        Relation.exists.holds, .null⟩], .all, {}, "subject:exists"⟩ ⟨.first, .midnight, .utc⟩
        [⟨0, .object [("subject", .string "a")]⟩] = .ok r' ∧
          Front.usual.sends (resultValue ⟨.issue, "subject:exists"⟩ r') = true :=
      ⟨{ query := ⟨.issue, [⟨"subject", Relation.exists.holds, .null⟩], .all, {}, "subject:exists"⟩
         entries := .records [⟨0, .object [("subject", .string "a")]⟩]
         total := 1
         executedAt := ⟨.first, .midnight, .utc⟩
         fetched := 1
         matched := 1 }, by cbv, by cbv⟩
    have hfetched : (Search.records (Search.waited ((Store.source { issues := [
          ⟨0, .object [("subject", .string "a")]⟩] }).paced .instant) {} ()) (Search.permits {})
        .issue (.int 1)).run () = (.ok [⟨0, .object [("subject", .string "a")]⟩], ()) := by
      rw [Search.waited_eq_self fun _ _ => rfl]
      rfl
    rw [Search.search_of_steps hvalid hfetched hmade] at hr
    cases hr
    exact Bool.false_ne_true (hunsent.symm.trans hsent)

/-- A filter that looks 3000 years back is a good query. -/
theorem read_long_ago :
    Query.read .issue "created:>3000y" = .ok ⟨.issue,
      [⟨"created", Relation.greater.holds, .string "3000y"⟩], .all, {}, "created:>3000y"⟩ := by
  have htoken : Token.ofQuery "created:>3000y" = .ok [⟨.fieldExpr, "created:>3000y", 0⟩] := by
    rw [Token.ofQuery_of_isPlain (by decide) (by decide)]
    cbv
  have hname : "created:>3000y".toList.takeWhile (· ≠ ':') = "created".toList := by cbv
  have hsplit : FilterClause.splitOperator
      ("created:>3000y".toList.drop ("created".toList.length + 1))
      (0 + "created".toList.length + 1) =
        .ok ⟨Relation.greater.holds, some "3000y".toList, 9⟩ := by
    cbv
  have hfield : Field.canonical (String.ofList "created".toList) = "created" := by cbv
  have htype : Field.type? .issue "created" = some .date := by cbv
  have hoperand : FilterClause.readOperand "created"
      ⟨Relation.greater.holds, some "3000y".toList, 9⟩ =
        .ok (Relation.greater.holds, .string "3000y") := by
    cbv
  have hkeyword : FilterClause.isTimeKeyword (.string "3000y") = true := by cbv
  have hchecked : FilterClause.checkOperand "created" .date Relation.greater.holds
      (.string "3000y") ⟨.fieldExpr, "created:>3000y", 0⟩ = .ok (.string "3000y") := by
    simp [FilterClause.checkOperand, FilterClause.parts, hkeyword]
  have hclause : FilterClause.ofToken .issue ⟨.fieldExpr, "created:>3000y", 0⟩ =
      .ok ⟨"created", Relation.greater.holds, .string "3000y"⟩ := by
    rw [FilterClause.ofToken]
    dsimp only
    rw [hname, hsplit, ok_bind, hfield, htype]
    dsimp only
    rw [hoperand, ok_bind]
    dsimp only
    rw [if_pos (by decide), hchecked]
    rfl
  exact Query.read_of_ofToken htoken rfl hclause

/-- A store with an issue that was made on the first day of 2024. -/
def newYearStore : Store where
  issues := [⟨0, .object [("created_date", .string "2024-01-01")]⟩]

/-- On the first day of 2024, a stored issue and a filter that looks further back than the calendar
reaches: the search ends in none of the promised ways, and the service breaks down. -/
theorem stored_search_breaks_beyond_calendar :
    let now : Moment := ⟨⟨2024, 1, 1, by decide, by decide, by decide, by decide⟩, .midnight, .utc⟩
    (Search.search newYearStore.source now (.int 1) "issue" (some "created:>3000y")).run () =
      (.error (.badTime .outOfRange), ()) ∧
    ∃ answer, (reply { source := newYearStore.source, settings := {}, now } .post
        "/api/search" (.object [("project", .int 1), ("query", .string "created:>3000y")])).run () =
          (answer, ()) ∧ answer.status = 500 := by
  intro now
  have hmade : ResultSet.ofRecords ⟨.issue, [⟨"created", Relation.greater.holds,
      .string "3000y"⟩], .all, {}, "created:>3000y"⟩ now newYearStore.issues =
        .error .outOfRange := by
    cbv
  have hrun : ∀ kindName, Query.readKind kindName = .ok .issue →
      (Search.search newYearStore.source now (.int 1) kindName
        (some "created:>3000y")).run () = (.error (.badTime .outOfRange), ()) := by
    intro kindName hkind
    have hvalid := Search.validate_eq_ok_iff.mpr ⟨.issue, hkind, read_long_ago⟩
    have hfetched : (Search.records (Search.waited newYearStore.source {} ()) (Search.permits {})
        .issue (.int 1)).run () = (.ok newYearStore.issues, ()) := by
      rw [Search.waited_eq_self fun _ _ => rfl]
      rfl
    rw [Search.search_of_fetched hvalid hfetched, hmade]
    rfl
  have hbody : SearchPayload.ofBody?
      (.object [("project", .int 1), ("query", .string "created:>3000y")]) =
        some ⟨⟨.issue, "created:>3000y"⟩, .int 1⟩ := by
    cbv
  constructor
  · exact hrun "issue" (by cbv)
  · rw [run_reply_search _ _ hbody, run_search]
    dsimp only
    rw [Search.searchProject_int, hrun EntityKind.issue.plural (by cbv)]
    exact ⟨_, rfl, rfl⟩

end Service

end IssueQuery
