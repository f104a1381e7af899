import IssueQuery.Proofs.Query.Appending
import IssueQuery.Proofs.Query.Joining
import IssueQuery.Proofs.Search.Running
import IssueQuery.Source.Store

/-!
# Searching with a limit

What a search returns is accounted for by the records that it has fetched, and a limit behind the
query cuts this result off and changes nothing else about it.  The limit counts entries, so with a
grouping it leaves out whole groups.
-/

namespace IssueQuery.Search

variable {σ : Type} {now : Moment} {q : Query} {r : ResultSet} {fetched : List Record}

/-- On the same records, a limit cuts the entries off and leaves the rest of the result. -/
theorem ofRecords_withLimit (hfree : q.trailer.limit = none) (n : Nat) (text : String)
    (hmade : ResultSet.ofRecords q now fetched = .ok r) :
    ResultSet.ofRecords (q.withClause (.limit n) text) now fetched =
      .ok { r with
        query := q.withClause (.limit n) text
        entries := r.entries.take n
        total := (r.entries.take n).size } := by
  obtain ⟨kept, rfl⟩ := ResultSet.ofRecords_eq_ok_iff.mp hmade
  refine ResultSet.ofRecords_eq_ok_iff.mpr ⟨kept, ?_⟩
  dsimp only
  rw [ResultSet.cut_eq_self hfree]
  rfl

/-- A limit of `n` behind a query leaves the first `n` entries of its result and says the same about
what has been fetched and matched.  Without a limit nothing is lost or doubled: the entries are the
matched records in the order of the query, or else groups that split the records in this order. -/
theorem limit_takes_first (source : RecordSource σ) (now : Moment) (project : Value)
    (kindName text : String) (settings : Settings) (n : Nat) (q : Query) (r : ResultSet) (s s' : σ)
    (hread : validate kindName (some text) = .ok q) (hfree : q.trailer.limit = none) (hn : 1 ≤ n)
    (hrun : (search source now project kindName (some text) settings).run s = (.ok r, s')) :
    (∃ q' r', validate kindName (some (text ++ " LIMIT " ++ toString n)) = .ok q' ∧
      (search source now project kindName (some (text ++ " LIMIT " ++ toString n)) settings).run s =
        (.ok r', s') ∧
      r'.entries = r.entries.take n ∧ r'.total = r'.entries.toValues.length ∧
      r'.fetched = r.fetched ∧ r'.matched = r.matched) ∧
    ∃ fetched matched, (records source (permits settings) q.kind project).run s =
        (.ok fetched, s') ∧
      matched = fetched.filter (q.accepts now) ∧
      r.fetched = fetched.length ∧ r.matched = matched.length ∧
      ∃ ordered, ordered.Perm matched ∧ (q.trailer.order = none → ordered = matched) ∧
        (∀ order, q.trailer.order = some order → ordered = order.apply matched) ∧
        (q.trailer.group = none → r.entries = .records ordered) ∧
        ∀ field, q.trailer.group = some field →
          ∃ groups, r.entries = .groups groups ∧ ordered = ResultSet.arrange q matched ∧
            Group.Partition field ordered groups ∧ (groups.map Group.count).sum = r.matched := by
  rw [search_of_validate hread] at hrun
  obtain ⟨fetched, hfetched, hmade⟩ := exists_fetched_of_run hrun
  constructor
  · obtain ⟨kind, hkind, htext⟩ := validate_eq_ok_iff.mp hread
    have hread' : validate kindName (some (text ++ " LIMIT " ++ toString n)) =
        .ok (q.withClause (.limit n) (text ++ " LIMIT " ++ toString n)) :=
      validate_eq_ok_iff.mpr ⟨kind, hkind, Query.read_append_limit htext hfree hn⟩
    have hmade' := ofRecords_withLimit hfree n (text ++ " LIMIT " ++ toString n) hmade
    have hrun' : (search source now project kindName
        (some (text ++ " LIMIT " ++ toString n)) settings).run s = (.ok { r with
          query := q.withClause (.limit n) (text ++ " LIMIT " ++ toString n)
          entries := r.entries.take n
          total := (r.entries.take n).size }, s') := by
      have hfetched' : (records (waited source settings s) (permits settings)
          (q.withClause (.limit n) (text ++ " LIMIT " ++ toString n)).kind project).run s =
            (.ok fetched, s') := hfetched
      exact search_of_steps hread' hfetched' hmade'
    exact ⟨_, _, hread', hrun', rfl, (Entries.length_toValues _).symm, rfl, rfl⟩
  · refine ⟨fetched, _, records_of_waitedFor (one_le_permits settings) hfetched, rfl, ?_⟩
    obtain ⟨-, rfl⟩ := ResultSet.ofRecords_eq_ok_iff.mp hmade
    dsimp only
    rw [ResultSet.cut_eq_self hfree, ResultSet.bundle]
    have hperm := ResultSet.arrange_perm q (fetched.filter (q.accepts now))
    refine ⟨rfl, rfl, _, hperm, ?_, ?_, ?_, ?_⟩
    · intro horder
      rw [ResultSet.arrange, horder]
    · intro order horder
      rw [ResultSet.arrange, horder]
    · intro hgroup
      rw [hgroup]
    · intro field hgroup
      rw [hgroup]
      have hsplit := Group.partition_ofRecords field
        (ResultSet.arrange q (fetched.filter (q.accepts now)))
      exact ⟨_, rfl, rfl, hsplit, hsplit.total.trans hperm.length_eq⟩

theorem limit_takes_first_group :
    ∃ q r, validate "issue" (some "subject:exists GROUP BY status LIMIT 1") = .ok q ∧
      (search (Store.source { issues := [
          ⟨0, .object [("subject", .string "a")]⟩,
          ⟨1, .object [("subject", .string "b"), ("status", .string "new")]⟩] })
        ⟨.first, .midnight, .utc⟩ (.nat 1) "issue"
        (some "subject:exists GROUP BY status LIMIT 1")).run () = (.ok r, ()) ∧
      r.entries = .groups [⟨"undefined", [⟨0, .object [("subject", .string "a")]⟩], 1⟩] ∧
      r.matched = 2 := by
  have hfilter : Token.ofQuery "subject:exists" = .ok [⟨.fieldExpr, "subject:exists", 0⟩] := by
    rw [Token.ofQuery_of_isPlain (by decide) (by decide)]
    cbv
  have hclause : FilterClause.ofToken .issue ⟨.fieldExpr, "subject:exists", 0⟩ =
      .ok ⟨"subject", Relation.exists.holds, .null⟩ := by
    cbv
  have hgroup : Token.ofQuery "GROUP" = .ok [⟨.clause .group, "GROUP", 0⟩] := by
    rw [Token.ofQuery_of_isPlain (by decide) (by decide)]
    cbv
  have hby : Token.ofQuery "BY" = .ok [⟨.by, "BY", 0⟩] := by
    rw [Token.ofQuery_of_isPlain (by decide) (by decide)]
    cbv
  have hstatus : Token.ofQuery "status" = .ok [⟨.word, "status", 0⟩] := by
    rw [Token.ofQuery_of_isPlain (by decide) (by decide)]
    cbv
  have hblank : Text.isBlankText " " := by decide
  have hne : " " ≠ "" := by decide
  have htokens : Token.ofQuery ("GROUP" ++ " " ++ "BY" ++ " " ++ "status") =
      .ok [⟨.clause .group, "GROUP", 0⟩, ⟨.by, "BY", 6⟩, ⟨.word, "status", 9⟩] := by
    rw [Token.ofQuery_append (Token.ofQuery_append hgroup hby hne hblank) hstatus hne hblank]
    cbv
  have hcanonical : Field.canonical "status" = "status" := by cbv
  have hwritten : Query.Clause.Written .issue (.group (Field.canonical "status"))
      [⟨.clause .group, "GROUP", 0⟩, ⟨.by, "BY", 6⟩, ⟨.word, "status", 9⟩] :=
    @Query.Clause.Written.group .issue ⟨.clause .group, "GROUP", 0⟩ ⟨.by, "BY", 6⟩
      ⟨.word, "status", 9⟩ rfl rfl rfl (by cbv)
  rw [hcanonical] at hwritten
  have htext : "subject:exists" ++ " " ++ ("GROUP" ++ " " ++ "BY" ++ " " ++ "status") =
      "subject:exists GROUP BY status" := by
    cbv
  have hread := Query.read_append_clause (Query.read_of_ofToken hfilter rfl hclause) rfl htokens
    hwritten hne hblank
  rw [htext] at hread
  have hvalid := validate_eq_ok_iff.mpr ⟨.issue, (by cbv : Query.readKind "issue" = _), hread⟩
  have hmade : ResultSet.ofRecords ⟨.issue, [⟨"subject", Relation.exists.holds, .null⟩], .all,
        { group := some "status" }, "subject:exists GROUP BY status"⟩ ⟨.first, .midnight, .utc⟩ [
          ⟨0, .object [("subject", .string "a")]⟩,
          ⟨1, .object [("subject", .string "b"), ("status", .string "new")]⟩] =
      .ok {
        query := ⟨.issue, [⟨"subject", Relation.exists.holds, .null⟩], .all,
          { group := some "status" }, "subject:exists GROUP BY status"⟩
        entries := .groups [⟨"undefined", [⟨0, .object [("subject", .string "a")]⟩], 1⟩,
          ⟨"new", [⟨1, .object [("subject", .string "b"), ("status", .string "new")]⟩], 1⟩]
        total := 2
        executedAt := ⟨.first, .midnight, .utc⟩
        fetched := 2
        matched := 2 } := by
    cbv
  have hfetched : (records (waited (Store.source { issues := [
        ⟨0, .object [("subject", .string "a")]⟩,
        ⟨1, .object [("subject", .string "b"), ("status", .string "new")]⟩] }) {} ()) (permits {})
      .issue (.nat 1)).run () = (.ok [
        ⟨0, .object [("subject", .string "a")]⟩,
        ⟨1, .object [("subject", .string "b"), ("status", .string "new")]⟩], ()) := by
    rw [waited_eq_self fun _ _ => rfl]
    rfl
  obtain ⟨⟨q, r, hread', hrun', hentries, -, -, hmatched⟩, -⟩ :=
    limit_takes_first _ _ _ _ _ {} 1 _ _ () () hvalid rfl (Nat.le_refl 1)
      (search_of_steps hvalid hfetched hmade)
  exact ⟨q, r, hread', hrun', hentries, hmatched⟩

end IssueQuery.Search
