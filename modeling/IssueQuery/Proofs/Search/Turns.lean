import IssueQuery.Proofs.Outcome
import IssueQuery.Search.FanOut

/-!
# Taking turns is asking story by story

Calls begin in the order of the stories, and only their beginnings touch the source.  Hence it makes
no difference how many of them are under way at the same time: if all of them return, they give what
asking story by story gives.

The invariant is what the calls come to, `outcome`.  No turn changes it, so what is gathered behind
the last turn could be seen in it from the start.
-/

namespace IssueQuery.Search

open Outcome

variable {σ : Type} {source : RecordSource σ} {permits : Nat} {jobs jobs' : List Job}
  {story : Record} {stories : List Record} {rs : List Record} {e : SourceFailure} {s s' : σ}

/-! ## Story by story -/

/-- The tasks of several user stories, one story after the other. -/
def tasksOfAll (source : RecordSource σ) : List Record → Fetch σ (List Record)
  | [] => pure []
  | story :: stories => ExceptT.mk fun s =>
    let (tasks, s) := (tasksOfRecord source story).run s
    let (others, s) := (tasksOfAll source stories).run s
    (do return (← tasks) ++ (← others), s)

/-- The tasks of several stories are those of the first and those of the others, on one state after
the other. -/
theorem run_tasksOfAll_cons (source : RecordSource σ) (story : Record) (stories : List Record)
    (s : σ) :
    (tasksOfAll source (story :: stories)).run s =
      (do
        let tasks ← ((tasksOfRecord source story).run s).1
        let others ← ((tasksOfAll source stories).run ((tasksOfRecord source story).run s).2).1
        return tasks ++ others,
      ((tasksOfAll source stories).run ((tasksOfRecord source story).run s).2).2) := rfl

/-- What calls give together: the tasks of all of them, or the failure of the first that fails. -/
def together : List (Except SourceFailure (List Record)) → Except SourceFailure (List Record)
  | [] => .ok []
  | result :: results => do return (← result) ++ (← together results)

/-- What calls come to, and with which state, if those that wait are made one after the other. -/
def outcome (source : RecordSource σ) :
    List Job → σ → List (Except SourceFailure (List Record)) × σ
  | [], s => ([], s)
  | ⟨story, .waiting⟩ :: jobs, s =>
    let (result, s) := (tasksOfRecord source story).run s
    let (results, s) := outcome source jobs s
    (result :: results, s)
  | ⟨_, .running result⟩ :: jobs, s | ⟨_, .done result⟩ :: jobs, s =>
    let (results, s) := outcome source jobs s
    (result :: results, s)

theorem outcome_waiting (source : RecordSource σ) (story : Record) (jobs : List Job) (s : σ) :
    outcome source (⟨story, .waiting⟩ :: jobs) s =
      (((tasksOfRecord source story).run s).1 ::
        (outcome source jobs ((tasksOfRecord source story).run s).2).1,
      (outcome source jobs ((tasksOfRecord source story).run s).2).2) := rfl

theorem outcome_running (source : RecordSource σ) (story : Record)
    (result : Except SourceFailure (List Record)) (jobs : List Job) (s : σ) :
    outcome source (⟨story, .running result⟩ :: jobs) s =
      (result :: (outcome source jobs s).1, (outcome source jobs s).2) := rfl

theorem outcome_done (source : RecordSource σ) (story : Record)
    (result : Except SourceFailure (List Record)) (jobs : List Job) (s : σ) :
    outcome source (⟨story, .done result⟩ :: jobs) s =
      (result :: (outcome source jobs s).1, (outcome source jobs s).2) := rfl

theorem run_tasksOfAll (source : RecordSource σ) (stories : List Record) (s : σ) :
    (tasksOfAll source stories).run s =
      (together (outcome source (stories.map Job.ofStory) s).1,
        (outcome source (stories.map Job.ofStory) s).2) := by
  induction stories generalizing s with
  | nil => rfl
  | cons story stories ih =>
      rw [run_tasksOfAll_cons, ih, List.map_cons, Job.ofStory, outcome_waiting]
      rfl

theorem exists_ok_of_together {results : List (Except SourceFailure (List Record))}
    (h : together results = .ok rs) : ∀ result ∈ results, ∃ tasks, result = .ok tasks := by
  induction results generalizing rs with
  | nil => exact fun _ hresult => absurd hresult List.not_mem_nil
  | cons result results ih =>
      obtain ⟨tasks, htasks, hothers⟩ := bind_eq_ok_iff.mp h
      obtain ⟨others, hothers, -⟩ := bind_eq_ok_iff.mp hothers
      rw [List.forall_mem_cons]
      exact ⟨⟨tasks, htasks⟩, ih hothers⟩

theorem mem_of_together_eq_error {results : List (Except SourceFailure (List Record))}
    (h : together results = .error e) : .error e ∈ results := by
  induction results with
  | nil => cases h
  | cons result results ih =>
      rcases bind_eq_error_iff.mp h with h | ⟨tasks, -, h⟩
      · exact h ▸ List.mem_cons_self
      · rcases bind_eq_error_iff.mp h with h | ⟨others, -, h⟩
        · exact List.mem_cons_of_mem result (ih h)
        · cases h

/-! ## What a turn keeps -/

theorem outcome_of_beginNext (h : beginNext source jobs s = some (jobs', s')) :
    outcome source jobs' s' = outcome source jobs s := by
  induction jobs generalizing jobs' with
  | nil => cases h
  | cons job jobs ih =>
      obtain ⟨story, progress⟩ := job
      cases progress with
      | waiting =>
          cases h
          rfl
      | running result | done result =>
          obtain ⟨⟨jobs₁, s₁⟩, hnext, hjobs⟩ := Option.map_eq_some_iff.mp h
          cases hjobs
          simp only [outcome, ih hnext]

theorem outcome_of_endNext (h : endNext jobs = some jobs') (s : σ) :
    outcome source jobs' s = outcome source jobs s := by
  induction jobs generalizing jobs' s with
  | nil => cases h
  | cons job jobs ih =>
      obtain ⟨story, progress⟩ := job
      cases progress with
      | waiting | done result =>
          obtain ⟨jobs₁, hnext, rfl⟩ := Option.map_eq_some_iff.mp h
          simp only [outcome, ih hnext]
      | running result =>
          rw [endNext] at h
          split at h
          · cases h
            rfl
          · obtain ⟨jobs₁, hnext, rfl⟩ := Option.map_eq_some_iff.mp h
            simp only [outcome, ih hnext]

theorem outcome_of_turn (h : turn source permits jobs s = some (jobs', s')) :
    outcome source jobs' s' = outcome source jobs s := by
  rw [turn, Option.or_eq_some_iff] at h
  rcases h with h | ⟨-, h⟩
  · split at h
    · exact outcome_of_beginNext h
    · cases h
  · obtain ⟨jobs₁, hnext, hjobs⟩ := Option.map_eq_some_iff.mp h
    cases hjobs
    exact outcome_of_endNext hnext s

theorem takeTurns_of_none (h : turn source permits jobs s = none) :
    takeTurns source permits jobs s = (jobs, s) := by
  rw [takeTurns]
  split
  · rfl
  · rename_i hsome
    rw [h] at hsome
    cases hsome

theorem takeTurns_of_some (h : turn source permits jobs s = some (jobs', s')) :
    takeTurns source permits jobs s = takeTurns source permits jobs' s' := by
  rw [takeTurns]
  split
  · rename_i hnone
    rw [h] at hnone
    cases hnone
  · rename_i hsome
    rw [h] at hsome
    cases hsome
    rfl

/-- Turns keep what the calls come to, and they are taken until there is none. -/
theorem outcome_takeTurns (source : RecordSource σ) (permits : Nat) (jobs : List Job) (s : σ) :
    outcome source (takeTurns source permits jobs s).1 (takeTurns source permits jobs s).2 =
        outcome source jobs s ∧
      turn source permits (takeTurns source permits jobs s).1
        (takeTurns source permits jobs s).2 = none := by
  induction jobs, s using takeTurns.induct source permits with
  | case1 jobs s h =>
      rw [takeTurns_of_none h]
      exact ⟨rfl, h⟩
  | case2 jobs s jobs' s' h hless ih =>
      rw [takeTurns_of_some h]
      exact ⟨ih.1.trans (outcome_of_turn h), ih.2⟩

/-! ## Where turns end -/

theorem not_waiting_of_beginNext (h : beginNext source jobs s = none) :
    ∀ job ∈ jobs, job.progress ≠ .waiting := by
  induction jobs with
  | nil => exact fun _ hjob => absurd hjob List.not_mem_nil
  | cons job jobs ih =>
      obtain ⟨story, progress⟩ := job
      rw [List.forall_mem_cons]
      cases progress with
      | waiting => cases h
      | running result | done result => exact ⟨nofun, ih (Option.map_eq_none_iff.mp h)⟩

/-- If every call returns, none is left under way. -/
theorem not_isRunning_of_endNext (h : endNext jobs = none)
    (hreturns : ∀ result ∈ (outcome source jobs s).1, returns result) :
    ∀ job ∈ jobs, ¬job.isRunning := by
  induction jobs generalizing s with
  | nil => exact fun _ hjob => absurd hjob List.not_mem_nil
  | cons job jobs ih =>
      obtain ⟨story, progress⟩ := job
      rw [List.forall_mem_cons]
      cases progress with
      | waiting =>
          rw [outcome_waiting, List.forall_mem_cons] at hreturns
          exact ⟨Bool.false_ne_true, ih (Option.map_eq_none_iff.mp h) hreturns.2⟩
      | done result =>
          rw [outcome_done, List.forall_mem_cons] at hreturns
          exact ⟨Bool.false_ne_true, ih (Option.map_eq_none_iff.mp h) hreturns.2⟩
      | running result =>
          rw [outcome_running, List.forall_mem_cons] at hreturns
          rw [endNext, if_pos hreturns.1] at h
          cases h

/-- If every call returns, turns end with all calls. -/
theorem all_isDone_of_turn (hpermits : 1 ≤ permits) (h : turn source permits jobs s = none)
    (hreturns : ∀ result ∈ (outcome source jobs s).1, returns result) : jobs.all Job.isDone := by
  rw [turn, Option.or_eq_none_iff, Option.map_eq_none_iff] at h
  have hrunning := not_isRunning_of_endNext h.2 hreturns
  have hfree : jobs.countP Job.isRunning < permits := by
    rw [List.countP_eq_zero.mpr hrunning]
    exact hpermits
  rw [if_pos hfree] at h
  have hwaiting := not_waiting_of_beginNext h.1
  rw [List.all_eq_true]
  intro job hjob
  have hnone := hrunning job hjob
  have hbegun := hwaiting job hjob
  obtain ⟨story, progress⟩ := job
  cases progress with
  | waiting => exact absurd rfl hbegun
  | running result => exact absurd rfl hnone
  | done result => rfl

/-- Only calls that have all ended give something together. -/
theorem gathered_eq_some (source : RecordSource σ) {result : Except SourceFailure (List Record)}
    (h : gathered jobs = some result) (s : σ) :
    together (outcome source jobs s).1 = result ∧ (outcome source jobs s).2 = s := by
  induction jobs generalizing result with
  | nil =>
      cases h
      exact ⟨rfl, rfl⟩
  | cons job jobs ih =>
      obtain ⟨story, progress⟩ := job
      cases progress with
      | waiting | running result => cases h
      | done result =>
          obtain ⟨others, hothers, rfl⟩ := Option.map_eq_some_iff.mp h
          obtain ⟨htogether, hstate⟩ := ih hothers
          rw [outcome_done]
          exact ⟨by rw [together, htogether], hstate⟩

theorem exists_gathered_of_all_isDone (h : jobs.all Job.isDone) :
    ∃ result, gathered jobs = some result := by
  induction jobs with
  | nil => exact ⟨_, rfl⟩
  | cons job jobs ih =>
      rw [List.all_cons, Bool.and_eq_true] at h
      obtain ⟨others, hothers⟩ := ih h.2
      obtain ⟨story, progress⟩ := job
      cases progress with
      | waiting => cases h.1
      | running result => cases h.1
      | done result => exact ⟨_, by rw [gathered, hothers]; rfl⟩

/-! ## What a call gives -/

theorem run_tasksOf (source : RecordSource σ) (story : Value) (s : σ) :
    (tasksOf source story).run s =
      match (source.tasks story).run s with
      | (.error .stalled, s') => (.error .stalled, s')
      | (.error _, s') => (.ok [], s')
      | (.ok tasks, s') => (.ok tasks, s') := by
  simp only [tasksOf, tryCatch, tryCatchThe, MonadExceptOf.tryCatch, ExceptT.tryCatch, ExceptT.run,
    ExceptT.mk, bind, StateT.bind]
  generalize source.tasks story s = answer
  obtain ⟨result, s'⟩ := answer
  cases result with
  | ok tasks => rfl
  | error e => cases e <;> rfl

/-- A user story gives tasks or never answers, and nothing else can be asked. -/
theorem tasksOfRecord_cases (source : RecordSource σ) (story : Record) (s : σ) :
    (∃ tasks, fault? story = none ∧ ((tasksOfRecord source story).run s).1 = .ok tasks) ∨
      ((tasksOfRecord source story).run s).1 = .error .stalled ∨
      ∃ e, fault? story = some e ∧ ((tasksOfRecord source story).run s).1 = .error e := by
  unfold tasksOfRecord
  cases hfault : fault? story with
  | some e => exact Or.inr (Or.inr ⟨e, rfl, rfl⟩)
  | none =>
      dsimp only
      rw [run_tasksOf]
      split
      · exact Or.inr (Or.inl rfl)
      · exact Or.inl ⟨_, rfl, rfl⟩
      · exact Or.inl ⟨_, rfl, rfl⟩

/-- Calls fail because a record is no story, or because they never return. -/
theorem eq_stalled_or_fault_of_mem (h : .error e ∈ (outcome source (stories.map Job.ofStory) s).1) :
    e = .stalled ∨ ∃ story ∈ stories, fault? story = some e := by
  induction stories generalizing s with
  | nil => cases h
  | cons story stories ih =>
      rw [List.map_cons, Job.ofStory, outcome_waiting, List.mem_cons] at h
      rcases h with h | h
      · rcases tasksOfRecord_cases source story s with ⟨tasks, -, hok⟩ | hstalled | ⟨e', hfault, he⟩
        · rw [hok] at h
          cases h
        · rw [hstalled] at h
          cases h
          exact Or.inl rfl
        · rw [he] at h
          cases h
          exact Or.inr ⟨story, List.mem_cons_self, hfault⟩
      · rcases ih h with h | ⟨d, hd, hfault⟩
        · exact Or.inl h
        · exact Or.inr ⟨d, List.mem_cons_of_mem story hd, hfault⟩

/-- If every call returns, the first failure is that of the first record that is no story. -/
theorem together_of_fault (hfault : stories.findSome? fault? = some e)
    (hreturns : ∀ result ∈ (outcome source (stories.map Job.ofStory) s).1, returns result) :
    together (outcome source (stories.map Job.ofStory) s).1 = .error e := by
  induction stories generalizing s with
  | nil => cases hfault
  | cons story stories ih =>
      rw [List.map_cons, Job.ofStory, outcome_waiting] at hreturns ⊢
      rw [List.forall_mem_cons] at hreturns
      rw [together]
      rcases tasksOfRecord_cases source story s with ⟨tasks, hnone, hok⟩ | hstalled | ⟨e', hsome, he⟩
      · rw [List.findSome?_cons, hnone] at hfault
        rw [hok, ok_bind, ih hfault hreturns.2]
        rfl
      · rw [hstalled] at hreturns
        cases hreturns.1
      · rw [List.findSome?_cons, hsome] at hfault
        cases hfault
        rw [he]
        rfl

/-! ## Asking several stories -/

theorem run_fanOut (source : RecordSource σ) (permits : Nat) (stories : List Record) (s : σ) :
    (fanOut source permits stories).run s =
      match stories.findSome? fault? with
      | some e => (.error e, (takeTurns source permits (stories.map Job.ofStory) s).2)
      | none => ((gathered (takeTurns source permits (stories.map Job.ofStory) s).1).getD
          (.error .stalled), (takeTurns source permits (stories.map Job.ofStory) s).2) := rfl

/-- If every call returns, taking turns gives what asking story by story gives. -/
theorem fanOut_of_returns (hpermits : 1 ≤ permits)
    (hreturns : ∀ result ∈ (outcome source (stories.map Job.ofStory) s).1, returns result) :
    (fanOut source permits stories).run s = (tasksOfAll source stories).run s := by
  obtain ⟨hkept, hlast⟩ := outcome_takeTurns source permits (stories.map Job.ofStory) s
  have hdone := all_isDone_of_turn hpermits hlast (by rw [hkept]; exact hreturns)
  obtain ⟨result, hgathered⟩ := exists_gathered_of_all_isDone hdone
  obtain ⟨htogether, hstate⟩ := gathered_eq_some source hgathered
    (takeTurns source permits (stories.map Job.ofStory) s).2
  rw [hkept] at htogether hstate
  rw [run_fanOut, run_tasksOfAll, htogether, hstate, hgathered]
  cases hfault : stories.findSome? fault? with
  | none => rfl
  | some e => rw [← htogether, together_of_fault hfault hreturns]

/-- Tasks that have been gathered are those that asking story by story gives. -/
theorem tasksOfAll_of_fanOut (h : (fanOut source permits stories).run s = (.ok rs, s')) :
    (tasksOfAll source stories).run s = (.ok rs, s') := by
  rw [run_fanOut] at h
  split at h
  · cases h
  · obtain ⟨hresult, rfl⟩ := Prod.mk.inj h
    cases hgathered : gathered (takeTurns source permits (stories.map Job.ofStory) s).1 with
    | none =>
        rw [hgathered] at hresult
        cases hresult
    | some result =>
        rw [hgathered] at hresult
        obtain rfl : result = .ok rs := hresult
        obtain ⟨htogether, hstate⟩ := gathered_eq_some source hgathered
          (takeTurns source permits (stories.map Job.ofStory) s).2
        rw [(outcome_takeTurns source permits _ s).1] at htogether hstate
        rw [run_tasksOfAll, htogether, hstate]

/-- If asking story by story gives tasks, every call returns. -/
theorem returns_of_tasksOfAll (h : (tasksOfAll source stories).run s = (.ok rs, s')) :
    ∀ result ∈ (outcome source (stories.map Job.ofStory) s).1, returns result := by
  rw [run_tasksOfAll] at h
  intro result hresult
  obtain ⟨tasks, rfl⟩ := exists_ok_of_together (Prod.mk.inj h).1 result hresult
  rfl

/-- Several stories fail together because a record is none, or because a call never returns. -/
theorem eq_stalled_or_fault_of_fanOut (h : (fanOut source permits stories).run s = (.error e, s')) :
    e = .stalled ∨ ∃ story ∈ stories, fault? story = some e := by
  rw [run_fanOut] at h
  split at h
  · rename_i hfault
    cases h
    exact Or.inr (List.exists_of_findSome?_eq_some hfault)
  · have hresult := (Prod.mk.inj h).1
    cases hgathered : gathered (takeTurns source permits (stories.map Job.ofStory) s).1 with
    | none =>
        rw [hgathered] at hresult
        cases hresult
        exact Or.inl rfl
    | some result =>
        rw [hgathered] at hresult
        obtain rfl : result = .error e := hresult
        obtain ⟨htogether, -⟩ := gathered_eq_some source hgathered
          (takeTurns source permits (stories.map Job.ofStory) s).2
        rw [(outcome_takeTurns source permits _ s).1] at htogether
        exact eq_stalled_or_fault_of_mem (mem_of_together_eq_error htogether)

/-! ## Asking as long as there is time -/

variable {inTime : σ → Bool}

/-- A call that gives something else than no answer has been in time. -/
theorem run_fetchWhile {α : Type} {fetch : Fetch σ α}
    (h : ((RecordSource.fetchWhile inTime fetch).run s).1 ≠ .error .stalled) :
    (RecordSource.fetchWhile inTime fetch).run s = fetch.run s := by
  have hrun : (RecordSource.fetchWhile inTime fetch).run s =
      (if inTime (fetch.run s).2 then (fetch.run s).1 else .error .stalled, (fetch.run s).2) := rfl
  rw [hrun] at h ⊢
  by_cases htime : inTime (fetch.run s).2
  · exact Prod.ext (if_pos htime) rfl
  · rw [if_neg htime] at h
    exact absurd rfl h

theorem tasksOfRecord_of_waitedFor
    (h : (tasksOfRecord (source.waitedFor inTime) story).run s = (.ok rs, s')) :
    (tasksOfRecord source story).run s = (.ok rs, s') := by
  unfold tasksOfRecord at h ⊢
  cases hfault : fault? story with
  | some e =>
      rw [hfault] at h
      cases h
  | none =>
      rw [hfault] at h
      dsimp only at h ⊢
      rw [run_tasksOf] at h ⊢
      have htasks : (source.waitedFor inTime).tasks (story.get "id") =
          RecordSource.fetchWhile inTime (source.tasks (story.get "id")) := rfl
      have htime : ((RecordSource.fetchWhile inTime (source.tasks (story.get "id"))).run s).1 ≠
          .error .stalled := by
        intro hstalled
        have hrun : (RecordSource.fetchWhile inTime (source.tasks (story.get "id"))).run s =
            (.error .stalled, _) := Prod.ext hstalled rfl
        rw [htasks, hrun] at h
        cases h
      rwa [htasks, run_fetchWhile htime] at h

/-- What is had in time is what the source gives. -/
theorem tasksOfAll_of_waitedFor
    (h : (tasksOfAll (source.waitedFor inTime) stories).run s = (.ok rs, s')) :
    (tasksOfAll source stories).run s = (.ok rs, s') := by
  induction stories generalizing s rs with
  | nil => exact h
  | cons story stories ih =>
      rw [run_tasksOfAll_cons] at h
      obtain ⟨hresult, hstate⟩ := Prod.mk.inj h
      obtain ⟨tasks, htasks, hresult⟩ := bind_eq_ok_iff.mp hresult
      obtain ⟨others, hothers, hresult⟩ := bind_eq_ok_iff.mp hresult
      have hstory := tasksOfRecord_of_waitedFor (Prod.ext htasks rfl)
      have hrest := ih (Prod.ext hothers hstate)
      rw [run_tasksOfAll_cons, hstory, hrest]
      exact congrArg (·, s') hresult

end IssueQuery.Search
