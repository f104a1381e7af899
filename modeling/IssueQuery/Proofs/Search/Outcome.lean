import IssueQuery.Proofs.Match.Calendar
import IssueQuery.Proofs.Search.Running
import IssueQuery.Service.Basic
import IssueQuery.Source.Store
import Mathlib.Logic.Function.Iterate

/-!
# How a search on stored records ends

A store never refuses to list its records, so a search on it gives a result or shows what is wrong
with the query, unless it runs out of time.  There is one more way to end: a query may ask for a
moment outside the calendar, which only shows when a record is looked at, and then neither of these
is what the caller is told.

Issues and user stories are at hand at once.  The calls for tasks take turns, and only there may
time pass.
-/

namespace IssueQuery

open Outcome

/-! ## Time on a store -/

/-- How time passes while calls wait for their turn: the seconds that have passed in a state, and
the state behind one wait. -/
structure Pace (σ : Type) where
  time : σ → Rat
  wait : σ → σ

/-- The pace of calls that need not wait. -/
def Pace.instant {σ : Type} : Pace σ :=
  ⟨fun _ => 0, id⟩

/-- After some waits, a search that began in the state `s` has used up the seconds it may take. -/
def Pace.Overruns {σ : Type} (pace : Pace σ) (limit : Double) (s : σ) : Prop :=
  ∃ n seconds, limit.toRat? = some seconds ∧ 0 < pace.time (pace.wait^[n] s) - pace.time s ∧
    seconds ≤ pace.time (pace.wait^[n] s) - pace.time s

/-- The source whose calls for tasks wait for their turn. -/
def RecordSource.paced {σ : Type} (pace : Pace σ) (source : RecordSource σ) : RecordSource σ where
  time := pace.time
  issues := source.issues
  userStories := source.userStories
  tasks story := ExceptT.mk fun s => (source.tasks story).run (pace.wait s)
  projectNamed? := source.projectNamed?

namespace Search

variable {σ : Type} {settings : Settings} {pace : Pace σ} {s : σ}

/-- A search that does not use up its time is in time behind every wait. -/
theorem inTime_of_not_overruns (source : RecordSource σ)
    (h : ¬pace.Overruns settings.queryTimeout s) (n : Nat) :
    inTime (source.paced pace) settings s (pace.wait^[n] s) := by
  unfold inTime
  dsimp only
  cases hlimit : settings.queryTimeout.toRat? with
  | none => rfl
  | some limit =>
      dsimp only
      rw [Bool.not_eq_true', Bool.and_eq_false_iff, decide_eq_false_iff_not,
        decide_eq_false_iff_not]
      by_contra hlate
      rw [not_or, not_not, not_not] at hlate
      exact h ⟨n, limit, hlimit, hlate⟩

end Search

/-! ## What a store lists -/

namespace Store

/-- All records of a store are objects. -/
structure HoldsObjects (store : Store) : Prop where
  issues : ∀ r ∈ store.issues, ∃ fields, r.content = .object fields
  userStories : ∀ r ∈ store.userStories, ∃ fields, r.content = .object fields
  tasks : ∀ r ∈ store.tasks, ∃ fields, r.content = .object fields

/-- The records of a store that a query on records of a kind looks at. -/
def listed (store : Store) (kind : EntityKind) (project : Value) : List Record :=
  match kind with
  | .issue => store.issues.filter (belongsTo project)
  | .userStory => store.userStories.filter (belongsTo project)
  | .task => (store.userStories.filter (belongsTo project)).flatMap fun story =>
      store.tasks.filter (isTaskOf (story.get "id"))

theorem HoldsObjects.of_listed {store : Store} (hobjects : store.HoldsObjects) {kind : EntityKind}
    {project : Value} {r : Record} (h : r ∈ store.listed kind project) :
    ∃ fields, r.content = .object fields := by
  cases kind with
  | issue => exact hobjects.issues r (List.mem_filter.mp h).1
  | userStory => exact hobjects.userStories r (List.mem_filter.mp h).1
  | task =>
      obtain ⟨story, -, hr⟩ := List.mem_flatMap.mp h
      exact hobjects.tasks r (List.mem_filter.mp hr).1

variable {σ : Type} {store : Store} {pace : Pace σ}

theorem fault?_eq_none {story : Record} (h : ∃ fields, story.content = .object fields) :
    Search.fault? story = none := by
  obtain ⟨fields, hfields⟩ := h
  rw [Search.fault?, hfields]

/-- As long as there is time, a store gives the tasks of all stories, after one wait for each. -/
theorem run_tasksOfAll (store : Store) (pace : Pace σ) (inTime : σ → Bool)
    {stories : List Record} {s : σ} (htime : ∀ n, inTime (pace.wait^[n] s))
    (h : ∀ r ∈ stories, ∃ fields, r.content = .object fields) :
    (Search.tasksOfAll ((store.source.paced pace).waitedFor inTime) stories).run s =
      (.ok (stories.flatMap fun story => store.tasks.filter (isTaskOf (story.get "id"))),
        pace.wait^[stories.length] s) := by
  induction stories generalizing s with
  | nil => rfl
  | cons story stories ih =>
      have hcall : (((store.source.paced pace).waitedFor inTime).tasks (story.get "id")).run s =
          (.ok (store.tasks.filter (isTaskOf (story.get "id"))), pace.wait s) :=
        Prod.ext (if_pos (htime 1)) rfl
      have hstory :
          (Search.tasksOfRecord ((store.source.paced pace).waitedFor inTime) story).run s =
          (.ok (store.tasks.filter (isTaskOf (story.get "id"))), pace.wait s) := by
        rw [Search.tasksOfRecord, fault?_eq_none (h story List.mem_cons_self)]
        dsimp only
        rw [Search.run_tasksOf, hcall]
      have hothers := ih (s := pace.wait s) (fun n => htime (n + 1))
        fun r hr => h r (List.mem_cons_of_mem story hr)
      rw [Search.run_tasksOfAll_cons, hstory, hothers]
      rfl

/-- A store of objects lists its records, unless the search for tasks runs out of time. -/
theorem run_records (hobjects : store.HoldsObjects) (pace : Pace σ) (settings : Settings)
    (kind : EntityKind) (project : Value) (s : σ) :
    (∃ s', (Search.records (Search.waited (store.source.paced pace) settings s)
        (Search.permits settings) kind project).run s = (.ok (store.listed kind project), s')) ∨
    kind = .task ∧ pace.Overruns settings.queryTimeout s ∧
      ∃ s', (Search.records (Search.waited (store.source.paced pace) settings s)
        (Search.permits settings) kind project).run s = (.error .stalled, s') := by
  have hnow : Search.inTime (store.source.paced pace) settings s s :=
    Search.inTime_of_time_eq rfl
  cases kind with
  | issue => exact Or.inl ⟨s, Prod.ext (if_pos hnow) rfl⟩
  | userStory => exact Or.inl ⟨s, Prod.ext (if_pos hnow) rfl⟩
  | task =>
      have hstories : ((Search.waited (store.source.paced pace) settings s).userStories
          project).run s = (.ok (store.userStories.filter (belongsTo project)), s) :=
        Prod.ext (if_pos hnow) rfl
      have hlisted : ∀ r ∈ store.userStories.filter (belongsTo project),
          ∃ fields, r.content = .object fields :=
        fun r hr => hobjects.userStories r (List.mem_filter.mp hr).1
      rw [Search.records, Search.projectTasks, run_bind_of_ok hstories]
      by_cases hlate : pace.Overruns settings.queryTimeout s
      · have hall := Search.tasksOfAll_of_waitedFor
          (run_tasksOfAll store pace (fun _ => true) (s := s) (fun _ => rfl) hlisted)
        rcases run_eq_ok_or_error (Search.fanOut
          (Search.waited (store.source.paced pace) settings s) (Search.permits settings)
          (store.userStories.filter (belongsTo project))) s with ⟨rs, s', h⟩ | ⟨e, s', h⟩
        · have hsame := Search.tasksOfAll_of_waitedFor (Search.tasksOfAll_of_fanOut h)
          rw [hall, Prod.mk.injEq, Except.ok.injEq] at hsame
          refine Or.inl ⟨s', ?_⟩
          rw [h, ← hsame.1]
          rfl
        · rcases Search.eq_stalled_or_fault_of_fanOut h with rfl | ⟨story, hstory, hfault⟩
          · exact Or.inr ⟨rfl, hlate, s', h⟩
          · rw [fault?_eq_none (hlisted story hstory)] at hfault
            cases hfault
      · have hall := run_tasksOfAll store pace _
          (Search.inTime_of_not_overruns store.source hlate) hlisted
        have hfanned := Search.fanOut_of_returns (Search.one_le_permits settings)
          (Search.returns_of_tasksOfAll hall)
        exact Or.inl ⟨_, hfanned.trans hall⟩

end Store

namespace Search

variable {σ : Type} {store : Store}

/-- The message about a search that has run out of time. -/
def timeoutMessage : String := "Query execution failed: Query execution timeout"

/-- Running a query on a store gives the result of the records that are listed, or fails because a
clause of the query leaves the calendar or because a search for tasks runs out of time. -/
theorem run_store (hobjects : store.HoldsObjects) (pace : Pace σ) (settings : Settings)
    (now : Moment) (project : Value) (q : Query) (s : σ) :
    ∃ answer s', (run (store.source.paced pace) now project q settings).run s = (answer, s') ∧
      ((∃ r, answer = .ok r ∧ ResultSet.ofRecords q now (store.listed q.kind project) = .ok r) ∨
        (∃ e, answer = .error (.badTime e) ∧ ∃ c ∈ q.filters, c.LeavesCalendar now e) ∨
        answer = .error (.failed timeoutMessage) ∧ q.kind = .task ∧
          pace.Overruns settings.queryTimeout s) := by
  rcases store.run_records hobjects pace settings q.kind project s with
    ⟨s', hlisted⟩ | ⟨hkind, hlate, s', hstalled⟩
  · refine ⟨_, s', run_of_fetched hlisted, ?_⟩
    cases hmade : ResultSet.ofRecords q now (store.listed q.kind project) with
    | ok r => exact Or.inl ⟨r, rfl, rfl⟩
    | error e =>
        obtain ⟨c, hc, hleaves, -⟩ := ResultSet.exists_leavesCalendar_of_filter
          (ResultSet.ofRecords_eq_error_iff.mp hmade)
        exact Or.inr (Or.inl ⟨e, rfl, c, hc, hleaves⟩)
  · refine ⟨_, s', by rw [run_eq, hstalled], Or.inr (Or.inr ⟨?_, hkind, hlate⟩)⟩
    rfl

end Search

end IssueQuery
