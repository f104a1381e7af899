import IssueQuery.Proofs.Record.Grouping
import IssueQuery.Proofs.Search.FanOut
import IssueQuery.Proofs.Search.Running
import IssueQuery.Source.Store
import Mathlib

/-!
# Searching tasks while some stories fail

The tasks of a project are those of its user stories.  A story whose tasks cannot be listed is
skipped, and this is all that a failure does: the search gives what it would give if the tasks of
such stories were not stored at all.  As the stories have different identifiers, no task is met
twice.
-/

namespace IssueQuery

open Outcome

/-! ## Failing stories -/

/-- The source that fails to list the tasks of some user stories. -/
def RecordSource.failing {σ : Type} (failure : Value → Option SourceFailure)
    (source : RecordSource σ) : RecordSource σ :=
  { source with tasks := fun story => Outage.orElse (failure story) (source.tasks story) }

namespace Store

variable {σ : Type} {failure : Value → Option SourceFailure} {project : Value} {s : σ}

/-- The user stories of a project. -/
def stories (store : Store) (project : Value) : List Record :=
  store.userStories.filter (belongsTo project)

/-- The user stories of a project whose tasks can be listed. -/
def listable (store : Store) (failure : Value → Option SourceFailure) (project : Value) :
    List Record :=
  (store.stories project).filter fun story => (failure (story.get "id")).isNone

/-- The tasks of some user stories, story by story. -/
def tasksOf (store : Store) (stories : List Record) : List Record :=
  stories.flatMap fun story => store.tasks.filter (isTaskOf (story.get "id"))

/-- The store without the tasks of the stories that fail. -/
def withoutFailing (store : Store) (failure : Value → Option SourceFailure) (project : Value) :
    Store :=
  { store with
    tasks := store.tasks.filter fun task =>
      !(store.stories project).any fun story =>
        (failure (story.get "id")).isSome && isTaskOf (story.get "id") task }

/-- The tasks that a story gives although some stories fail; a record that is no story gives
none. -/
def answer (store : Store) (failure : Value → Option SourceFailure) (story : Record) :
    Except SourceFailure (List Record) :=
  match story.content with
  | .object _ =>
    .ok (if (failure (story.get "id")).isNone then store.tasks.filter (isTaskOf (story.get "id"))
      else [])
  | v => .error (.broken v.noFieldsMessage)

/-- Unless a call never returns, a store answers every story alike, whatever fails. -/
theorem answersAlike_failing (store : Store) (hraised : ∀ story, failure story ≠ some .stalled) :
    Search.AnswersAlike ((store.source (σ := σ)).failing failure) (store.answer failure) := by
  intro story s
  unfold Search.tasksOfRecord Search.fault? answer
  cases story.content with
  | object fields =>
      have hcall : ((store.source (σ := σ)).failing failure).tasks (story.get "id") =
          Outage.orElse (failure (story.get "id"))
            (pure (store.tasks.filter (isTaskOf (story.get "id")))) := rfl
      dsimp only
      rw [Search.tasksOf, hcall]
      cases hfailure : failure (story.get "id") with
      | none => rfl
      | some e =>
          cases e with
          | refused message => rfl
          | broken message => rfl
          | stalled => exact absurd hfailure (hraised _)
  | _ => rfl

theorem returns_answer (store : Store) (failure : Value → Option SourceFailure)
    (story : Record) : Search.returns (store.answer failure story) := by
  unfold answer
  cases story.content <;> rfl

/-- Stories that are objects give the tasks of those among them that do not fail. -/
theorem answers_eq (store : Store) {stories : List Record}
    (hobjects : ∀ story ∈ stories, ∃ fields, story.content = .object fields) :
    Search.answers (store.answer failure) stories =
      .ok (store.tasksOf (stories.filter fun story => (failure (story.get "id")).isNone)) := by
  induction stories with
  | nil => rfl
  | cons story stories ih =>
      obtain ⟨fields, hfields⟩ := hobjects story List.mem_cons_self
      have hothers := ih fun d hd => hobjects d (List.mem_cons_of_mem story hd)
      have hstory : store.answer failure story =
          .ok (if (failure (story.get "id")).isNone then
            store.tasks.filter (isTaskOf (story.get "id")) else []) := by
        rw [answer, hfields]
      rw [Search.answers, hstory, ok_bind, hothers, ok_bind, List.filter_cons]
      cases (failure (story.get "id")).isNone with
      | true => rfl
      | false => rfl

/-- The tasks that are listed while some stories fail. -/
theorem run_records_failing (store : Store) {permits : Nat} (hpermits : 1 ≤ permits)
    (hraised : ∀ story, failure story ≠ some .stalled)
    (hobjects : ∀ story ∈ store.stories project, ∃ fields, story.content = .object fields) (s : σ) :
    (Search.records ((store.source (σ := σ)).failing failure) permits .task project).run s =
      (.ok (store.tasksOf (store.listable failure project)), s) := by
  have hstories : (((store.source (σ := σ)).failing failure).userStories project).run s =
      (.ok (store.stories project), s) := rfl
  rw [Search.records, Search.projectTasks, run_bind_of_ok hstories,
    (answersAlike_failing store hraised).run_fanOut hpermits (returns_answer store failure),
    answers_eq store hobjects]
  rfl

/-! ## Each task once -/

/-- Stories with different identifiers share no task, so taking the tasks story by story neither
loses nor doubles one. -/
theorem tasksOf_perm (store : Store) {stories : List Record}
    (hids : (stories.map fun story => (story.get "id").display).Nodup) :
    (store.tasksOf stories).Perm
      (store.tasks.filter fun task => stories.any fun story => isTaskOf (story.get "id") task) := by
  have hown : ∀ story ∈ stories,
      (store.tasks.filter fun task => stories.any fun d => isTaskOf (d.get "id") task).filter
          (fun task => (task.get "user_story").display = (story.get "id").display) =
        store.tasks.filter (isTaskOf (story.get "id")) := by
    intro story hstory
    rw [List.filter_filter]
    apply List.filter_congr
    intro task _
    by_cases htask : (task.get "user_story").display = (story.get "id").display
    · have hany : stories.any fun d => isTaskOf (d.get "id") task :=
        List.any_eq_true.mpr ⟨story, hstory, beq_iff_eq.mpr htask⟩
      rw [hany, Bool.and_true]
      simp [isTaskOf, htask]
    · simp [isTaskOf, htask]
  have hsplit : (stories.map fun story => (story.get "id").display).flatMap
        (fun id => (store.tasks.filter fun task =>
          stories.any fun story => isTaskOf (story.get "id") task).filter
            fun task => (task.get "user_story").display = id) = store.tasksOf stories := by
    rw [List.flatMap_map]
    exact List.flatMap_congr hown
  rw [← hsplit]
  apply flatMap_filter_perm hids
  intro task htask
  obtain ⟨story, hstory, hown⟩ := List.any_eq_true.mp (List.mem_filter.mp htask).2
  rw [beq_iff_eq.mp hown]
  exact List.mem_map_of_mem hstory

/-- Among stories with different identifiers, a task of one that does not fail is no task of one
that does. -/
theorem tasksOf_withoutFailing (store : Store)
    (hids : ((store.stories project).map fun story => (story.get "id").display).Nodup) :
    (store.withoutFailing failure project).tasksOf (store.stories project) =
      store.tasksOf (store.listable failure project) := by
  have hown : ∀ story ∈ store.stories project,
      (store.withoutFailing failure project).tasks.filter (isTaskOf (story.get "id")) =
        if (failure (story.get "id")).isNone then store.tasks.filter (isTaskOf (story.get "id"))
        else [] := by
    intro story hstory
    rw [withoutFailing, List.filter_filter]
    by_cases hfails : (failure (story.get "id")).isNone
    · rw [if_pos hfails]
      apply List.filter_congr
      intro task _
      by_cases htask : isTaskOf (story.get "id") task
      · rw [htask, Bool.true_and, Bool.not_eq_true', Bool.eq_false_iff]
        intro hother
        obtain ⟨d, hd, hdtask⟩ := List.any_eq_true.mp hother
        rw [Bool.and_eq_true] at hdtask
        have hsame : d = story := List.inj_on_of_nodup_map hids hd hstory
          ((beq_iff_eq.mp hdtask.2).symm.trans (beq_iff_eq.mp htask))
        rw [hsame, Option.isNone_iff_eq_none.mp hfails] at hdtask
        exact Bool.false_ne_true hdtask.1
      · simp [htask]
    · rw [if_neg hfails, List.filter_eq_nil_iff]
      intro task _ hkept
      rw [Bool.and_eq_true] at hkept
      have hskipped : (store.stories project).any (fun d =>
          (failure (d.get "id")).isSome && isTaskOf (d.get "id") task) := by
        rw [List.any_eq_true]
        refine ⟨story, hstory, ?_⟩
        rw [hkept.1, Bool.and_true]
        simpa [Option.isSome_iff_ne_none] using hfails
      rw [hskipped] at hkept
      exact Bool.false_ne_true hkept.2
  rw [tasksOf, List.flatMap_congr hown, tasksOf, listable]
  generalize store.stories project = stories
  induction stories with
  | nil => rfl
  | cons story stories ih =>
      rw [List.flatMap_cons, ih, List.filter_cons]
      cases (failure (story.get "id")).isNone with
      | true => rfl
      | false => rfl

end Store

/-! ## Searches -/

namespace Search

variable {σ : Type}

/-- Where nothing fails, a source is as it is. -/
theorem failing_none (source : RecordSource σ) : source.failing (fun _ => none) = source := rfl

/-- The tasks of a project whose stories have different identifiers, while the calls for some of the
stories fail.  The search looks at the tasks of all other stories, story by story and each task
once.  It ends as if the tasks of the failing stories were not stored, and no failure of a story
makes it fail.  If the stories are asked at the same time with a limit on the calls under way, every
schedule ends and gathers the same tasks. -/
theorem task_search_skips_failing (store : Store) (failure : Value → Option SourceFailure)
    (project : Value) (permits : Nat) (s : σ)
    (hobjects : ∀ story ∈ store.stories project, ∃ fields, story.content = .object fields)
    (hids : ((store.stories project).map fun story => (story.get "id").display).Nodup)
    (hraised : ∀ story, failure story ≠ some .stalled) (hpermits : 1 ≤ permits) :
    (records ((store.source (σ := σ)).failing failure) permits .task project).run s =
      (.ok (store.tasksOf (store.listable failure project)), s) ∧
    (store.tasksOf (store.listable failure project)).Perm
      (store.tasks.filter fun task =>
        (store.listable failure project).any fun story => Store.isTaskOf (story.get "id") task) ∧
    (∀ jobs s', Relation.ReflTransGen (Move ((store.source (σ := σ)).failing failure) permits)
        ((store.stories project).map Job.ofStory, s) (jobs, s') →
      jobs.countP Job.isRunning ≤ permits ∧
      (jobs.all Job.isDone →
        s' = s ∧ gathered jobs = some (.ok (store.tasksOf (store.listable failure project)))) ∧
      (¬jobs.all Job.isDone →
        ∃ next, Move ((store.source (σ := σ)).failing failure) permits (jobs, s') next) ∧
      ∀ next, Move ((store.source (σ := σ)).failing failure) permits (jobs, s') next →
        remaining next.1 < remaining jobs) ∧
    ∀ now kindName text? settings, Query.readKind kindName = .ok .task →
      (search ((store.source (σ := σ)).failing failure) now project kindName text? settings).run s =
        (search (store.withoutFailing failure project).source now project kindName text?
          settings).run s ∧
      ∀ q, validate kindName text? = .ok q →
        (search ((store.source (σ := σ)).failing failure) now project kindName text?
            settings).run s =
          ((ResultSet.ofRecords q now
            (store.tasksOf (store.listable failure project))).mapError .badTime, s) := by
  have hrecords := Store.run_records_failing (σ := σ) store hpermits hraised hobjects s
  have hids' : ((store.listable failure project).map fun story => (story.get "id").display).Nodup :=
    hids.sublist (List.filter_sublist.map _)
  refine ⟨hrecords, store.tasksOf_perm hids', ?_, ?_⟩
  · intro jobs s' hmoves
    have hsource := Store.answersAlike_failing (σ := σ) store hraised
    have hgathers := schedule_gathers hsource hpermits hmoves
    rw [hsource.run_tasksOfAll, Store.answers_eq store hobjects] at hgathers
    exact hgathers
  · intro now kindName text? settings hkind
    cases hread : validate kindName text? with
    | error e =>
        refine ⟨?_, nofun⟩
        rw [search_of_invalid hread, search_of_invalid hread]
    | ok q =>
        have hq : q.kind = .task := readKind_of_validate hkind hread
        have hpermitted := one_le_permits settings
        have hfailing : (search ((store.source (σ := σ)).failing failure) now project kindName
              text? settings).run s =
            ((ResultSet.ofRecords q now
              (store.tasksOf (store.listable failure project))).mapError .badTime, s) := by
          apply search_of_fetched hread
          rw [waited_eq_self fun _ _ => rfl, hq]
          exact Store.run_records_failing store hpermitted hraised hobjects s
        -- Without the tasks of failing stories in the store, nothing fails and nothing is missed.
        have hwithout : (records (waited (store.withoutFailing failure project).source settings s)
            (Search.permits settings) q.kind project).run s =
              (.ok (store.tasksOf (store.listable failure project)), s) := by
          have hnothing : ∀ story : Value, (fun _ => none : Value → Option SourceFailure) story ≠
              some .stalled := fun _ => nofun
          have hobjects' : ∀ story ∈ (store.withoutFailing failure project).stories project,
              ∃ fields, story.content = .object fields := hobjects
          have hall := Store.run_records_failing (σ := σ) (store.withoutFailing failure project)
            hpermitted hnothing hobjects' s
          have hlistable : (store.withoutFailing failure project).listable (fun _ => none) project =
              store.stories project := List.filter_eq_self.mpr fun _ _ => rfl
          rw [failing_none, hlistable, store.tasksOf_withoutFailing hids] at hall
          rw [waited_eq_self fun _ _ => rfl, hq]
          exact hall
        refine ⟨?_, ?_⟩
        · rw [hfailing, search_of_fetched hread hwithout]
        · intro q' hq'
          cases hq'
          exact hfailing

/-- Of two stories, the first one fails: the task of the second one is listed. -/
theorem task_search_skips_failing_first :
    (records ((Store.source (σ := Unit) {
          userStories := [⟨0, .object [("id", .int 1)]⟩, ⟨1, .object [("id", .int 2)]⟩]
          tasks := [⟨0, .object [("user_story", .int 2)]⟩,
            ⟨1, .object [("user_story", .int 1)]⟩] }).failing
        fun story => if story.same (.int 1) then some (.broken "down") else none)
        1 .task (.int 7)).run () =
      (.ok [⟨0, .object [("user_story", .int 2)]⟩], ()) := by
  have hstories : Store.stories {
      userStories := [⟨0, .object [("id", .int 1)]⟩, ⟨1, .object [("id", .int 2)]⟩]
      tasks := [⟨0, .object [("user_story", .int 2)]⟩, ⟨1, .object [("user_story", .int 1)]⟩] }
      (.int 7) = [⟨0, .object [("id", .int 1)]⟩, ⟨1, .object [("id", .int 2)]⟩] := by
    cbv
  have hlisted : Store.tasksOf {
      userStories := [⟨0, .object [("id", .int 1)]⟩, ⟨1, .object [("id", .int 2)]⟩]
      tasks := [⟨0, .object [("user_story", .int 2)]⟩, ⟨1, .object [("user_story", .int 1)]⟩] }
      (Store.listable {
        userStories := [⟨0, .object [("id", .int 1)]⟩, ⟨1, .object [("id", .int 2)]⟩]
        tasks := [⟨0, .object [("user_story", .int 2)]⟩, ⟨1, .object [("user_story", .int 1)]⟩] }
        (fun story => if story.same (.int 1) then some (.broken "down") else none) (.int 7)) =
      [⟨0, .object [("user_story", .int 2)]⟩] := by
    cbv
  rw [← hlisted]
  refine (task_search_skips_failing _ _ _ 1 () ?_ ?_ ?_ (Nat.le_refl 1)).1
  · rw [hstories]
    simp
  · rw [hstories]
    have hids : [(⟨0, .object [("id", .int 1)]⟩ : Record), ⟨1, .object [("id", .int 2)]⟩].map
        (fun story => (story.get "id").display) = ["1", "2"] := by
      cbv
    rw [hids]
    decide
  · intro story
    split
    · exact nofun
    · exact nofun

end Search

end IssueQuery
