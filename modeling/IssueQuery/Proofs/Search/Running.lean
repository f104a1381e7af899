import IssueQuery.Proofs.Query.Grammar
import IssueQuery.Proofs.ResultSet
import IssueQuery.Proofs.Search.Turns
import IssueQuery.Search

/-!
# How a search runs

A search has three steps: the query is read, the records are fetched, and the result is made of
them.  Each step may fail in its own way, and only the second one touches the source.
-/

namespace IssueQuery.Search

open Outcome

variable {σ : Type} {source : RecordSource σ} {now : Moment} {project : Value} {kindName : String}
  {text : String} {text? : Option String} {settings : Settings} {q : Query} {r : ResultSet}
  {e : SearchError} {s s' : σ}

/-! ## Reading -/

theorem validate_eq_ok_iff :
    validate kindName (some text) = .ok q ↔
      ∃ kind, Query.readKind kindName = .ok kind ∧ Query.read kind text = .ok q := by
  rw [validate, mapError_eq_ok_iff, Query.readNamed, bind_eq_ok_iff]

theorem readKind_of_validate {kind : EntityKind} (hkind : Query.readKind kindName = .ok kind)
    (hread : validate kindName text? = .ok q) : q.kind = kind := by
  rw [validate, mapError_eq_ok_iff, Query.readNamed, hkind, ok_bind] at hread
  cases text? with
  | none => cases hread
  | some text =>
      obtain ⟨-, tokens, -, hq⟩ := Query.read_eq_ok_iff.mp hread
      exact (Query.exists_comprises_of_ofTokens hq).2.1

/-- Reading has no failures but those of the query. -/
theorem exists_badQuery_of_validate (h : validate kindName text? = .error e) :
    ∃ fault, e = .badQuery fault := by
  obtain ⟨fault, -, hfault⟩ := mapError_eq_error_iff.mp h
  exact ⟨fault, hfault.symm⟩

theorem search_of_validate (h : validate kindName text? = .ok q) :
    search source now project kindName text? settings =
      run source now project q settings := by
  unfold search
  rw [h]

/-- A query that cannot be read ends the search, and the source is left alone. -/
theorem search_of_invalid (h : validate kindName text? = .error e) :
    (search source now project kindName text? settings).run s = (.error e, s) := by
  unfold search
  rw [h]
  rfl

/-! ## Fetching and matching -/

theorem run_fetched {α : Type} (fetch : Fetch σ α) (s : σ) :
    (fetched fetch).run s =
      ((fetch.run s).1.mapError fun e => .failed (describe e), (fetch.run s).2) := rfl

/-- A query is executed by one fetch, whose records are then looked at without the source. -/
theorem execute_eq {permits : Nat} :
    (execute source permits now project q).run s =
      match (records source permits q.kind project).run s with
      | (.ok fetched, s') => ((ResultSet.ofRecords q now fetched).mapError .badTime, s')
      | (.error e, s') => (.error (.failed (describe e)), s') := by
  rw [execute, run_bind, run_fetched]
  rcases run_eq_ok_or_error (records source permits q.kind project) s with
    ⟨fetched, s', h⟩ | ⟨e, s', h⟩
  · rw [h]
    dsimp only [Except.mapError]
    cases ResultSet.ofRecords q now fetched with
    | error e => rfl
    | ok r => rfl
  · rw [h]
    rfl

/-- The source as a search waits for it that begins in a state. -/
def waited (source : RecordSource σ) (settings : Settings) (s : σ) : RecordSource σ :=
  source.waitedFor (inTime source settings s)

/-- A query is run by one fetch for which there is time. -/
theorem run_eq :
    (run source now project q settings).run s =
      match (records (waited source settings s) (permits settings) q.kind project).run s with
      | (.ok fetched, s') => ((ResultSet.ofRecords q now fetched).mapError .badTime, s')
      | (.error e, s') => (.error (.failed (describe e)), s') :=
  execute_eq

theorem run_of_fetched {fetched : List Record}
    (h : (records (waited source settings s) (permits settings) q.kind project).run s =
      (.ok fetched, s')) :
    (run source now project q settings).run s =
      ((ResultSet.ofRecords q now fetched).mapError .badTime, s') := by
  rw [run_eq, h]

/-- A query that has been run has been run on some records. -/
theorem exists_fetched_of_run (h : (run source now project q settings).run s = (.ok r, s')) :
    ∃ fetched,
      (records (waited source settings s) (permits settings) q.kind project).run s =
        (.ok fetched, s') ∧
      ResultSet.ofRecords q now fetched = .ok r := by
  rcases run_eq_ok_or_error
    (records (waited source settings s) (permits settings) q.kind project) s with
    ⟨fetched, s₁, hfetched⟩ | ⟨e, s₁, hfailed⟩
  · rw [run_of_fetched hfetched, Prod.mk.injEq] at h
    obtain ⟨hmade, rfl⟩ := h
    exact ⟨fetched, hfetched, mapError_eq_ok_iff.mp hmade⟩
  · rw [run_eq, hfailed] at h
    cases h

theorem search_of_fetched {fetched : List Record} (hread : validate kindName text? = .ok q)
    (hfetched : (records (waited source settings s) (permits settings) q.kind project).run s =
      (.ok fetched, s')) :
    (search source now project kindName text? settings).run s =
      ((ResultSet.ofRecords q now fetched).mapError .badTime, s') := by
  rw [search_of_validate hread, run_of_fetched hfetched]

/-- The three steps of a search that succeeds. -/
theorem search_of_steps {fetched : List Record} (hread : validate kindName text? = .ok q)
    (hfetched : (records (waited source settings s) (permits settings) q.kind project).run s =
      (.ok fetched, s'))
    (hmade : ResultSet.ofRecords q now fetched = .ok r) :
    (search source now project kindName text? settings).run s = (.ok r, s') := by
  rw [search_of_fetched hread hfetched, hmade]
  rfl

/-! ## Records in time -/

theorem one_le_permits (settings : Settings) : 1 ≤ permits settings :=
  Nat.le_max_left 1 _

/-- The records that are had in time are those that the source lists. -/
theorem records_of_waitedFor {inTime : σ → Bool} {n : Nat} {kind : EntityKind}
    {fetched : List Record} (hn : 1 ≤ n)
    (h : (records (source.waitedFor inTime) n kind project).run s = (.ok fetched, s')) :
    (records source n kind project).run s = (.ok fetched, s') := by
  have hcall : ∀ {fetch : Fetch σ (List Record)} {rs : List Record} {s' : σ},
      (RecordSource.fetchWhile inTime fetch).run s = (.ok rs, s') →
      fetch.run s = (.ok rs, s') := by
    intro fetch rs s' h
    rw [← run_fetchWhile (by rw [h]; exact nofun), h]
  cases kind with
  | issue => exact hcall h
  | userStory => exact hcall h
  | task =>
      have hstories := run_eq_ok_or_error ((source.waitedFor inTime).userStories project) s
      rw [records, projectTasks, run_bind] at h
      rcases hstories with ⟨stories, s₁, hstories⟩ | ⟨e, s₁, hfailed⟩
      · rw [hstories] at h
        have hlisted := tasksOfAll_of_waitedFor (tasksOfAll_of_fanOut h)
        rw [records, projectTasks, run_bind_of_ok (hcall hstories),
          fanOut_of_returns hn (returns_of_tasksOfAll hlisted), hlisted]
      · rw [hfailed] at h
        cases h

/-- There is time as long as none has passed. -/
theorem inTime_of_time_eq {s s' : σ} (h : source.time s' = source.time s) :
    inTime source settings s s' := by
  unfold inTime
  rw [h, Rat.sub_self]
  cases settings.queryTimeout.toRat? with
  | none => rfl
  | some limit => rfl

/-- For a source on which no time passes, there is always time. -/
theorem waited_eq_self (h : ∀ s s', source.time s = source.time s') (s : σ) :
    waited source settings s = source := by
  have hcall : ∀ {α : Type} (fetch : Fetch σ α),
      RecordSource.fetchWhile (inTime source settings s) fetch = fetch := by
    intro α fetch
    funext s'
    exact Prod.ext (if_pos (inTime_of_time_eq (h _ _))) rfl
  unfold waited RecordSource.waitedFor
  simp only [hcall]

/-! ## Projects that are named -/

/-- A query that cannot be read ends the search before the project is looked up. -/
theorem searchProject_of_invalid {identifier : Option Value}
    (h : validate kindName (some text) = .error e) :
    (searchProject source now identifier kindName text settings).run s = (.error e, s) := by
  unfold searchProject
  rw [h]
  rfl

/-- An integer is the identifier of a project as it stands. -/
theorem searchProject_int (source : RecordSource σ) (now : Moment) (n : Int)
    (kindName text : String) (settings : Settings) (s : σ) :
    (searchProject source now (some (.int n)) kindName text settings).run s =
      (search source now (.int n) kindName (some text) settings).run s := by
  unfold searchProject search
  cases validate kindName (some text) with
  | error e => rfl
  | ok q => exact run_bind_of_ok rfl

end IssueQuery.Search
