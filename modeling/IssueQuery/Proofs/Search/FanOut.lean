import IssueQuery.Proofs.Search.Turns
import Mathlib.Data.List.Count
import Mathlib.Logic.Relation

/-!
# Listing the tasks of several stories at the same time

The calls for user stories may be under way at the same time, as long as their number stays within a
limit, and they may begin and end in any sequence.  Taking turns is one such schedule.  A source
that answers a story always alike makes all schedules equal: each of them comes to an end, and what
it has gathered then is what asking story by story gives.
-/

namespace IssueQuery.Search

open Outcome

namespace Job

/-- The call has no other result than the answer to its story. -/
def IsFaithful (answer : Record → Except SourceFailure (List Record)) (job : Job) : Prop :=
  match job.progress with
  | .waiting => True
  | .running result => result = answer job.story
  | .done result => result = answer job.story

end Job

variable {σ : Type}

/-- One move of a schedule: a call begins while fewer than `permits` others are under way, or a call
ends that has begun before. -/
inductive Move (source : RecordSource σ) (permits : Nat) : List Job × σ → List Job × σ → Prop where
  | start {before after : List Job} {story : Record} {s s' : σ}
      {result : Except SourceFailure (List Record)} :
      (before ++ after).countP Job.isRunning < permits →
      (tasksOfRecord source story).run s = (result, s') →
      Move source permits (before ++ ⟨story, .waiting⟩ :: after, s)
        (before ++ ⟨story, .running result⟩ :: after, s')
  | finish {before after : List Job} {story : Record} {s : σ}
      {result : Except SourceFailure (List Record)} :
      Move source permits (before ++ ⟨story, .running result⟩ :: after, s)
        (before ++ ⟨story, .done result⟩ :: after, s)

/-- The source answers every story always alike, and the question changes nothing. -/
def AnswersAlike (source : RecordSource σ) (answer : Record → Except SourceFailure (List Record)) :
    Prop :=
  ∀ story s, (tasksOfRecord source story).run s = (answer story, s)

/-- What asking story by story gives. -/
def answers (answer : Record → Except SourceFailure (List Record)) :
    List Record → Except SourceFailure (List Record)
  | [] => .ok []
  | story :: stories => do return (← answer story) ++ (← answers answer stories)

variable {source : RecordSource σ} {permits : Nat} {stories : List Record} {s : σ}
  {answer : Record → Except SourceFailure (List Record)} {jobs jobs' : List Job}
  {c c' : List Job × σ}

theorem AnswersAlike.run_tasksOfAll (h : AnswersAlike source answer) (stories : List Record)
    (s : σ) : (tasksOfAll source stories).run s = (answers answer stories, s) := by
  induction stories with
  | nil => rfl
  | cons story stories ih =>
      rw [run_tasksOfAll_cons, h story s, ih]
      rfl

theorem AnswersAlike.outcome_eq (h : AnswersAlike source answer) (stories : List Record) (s : σ) :
    outcome source (stories.map Job.ofStory) s = (stories.map answer, s) := by
  induction stories with
  | nil => rfl
  | cons story stories ih =>
      rw [List.map_cons, Job.ofStory, outcome_waiting, h story s, ih]
      rfl

/-- A source that answers every story gives the answers to all of them. -/
theorem AnswersAlike.run_fanOut (h : AnswersAlike source answer) (hpermits : 1 ≤ permits)
    (hreturns : ∀ story, returns (answer story)) (stories : List Record) (s : σ) :
    (fanOut source permits stories).run s = (answers answer stories, s) := by
  rw [← h.run_tasksOfAll stories s]
  refine fanOut_of_returns hpermits ?_
  rw [h.outcome_eq]
  intro result hresult
  obtain ⟨story, -, rfl⟩ := List.mem_map.mp hresult
  exact hreturns story

/-! ## Taking turns is a schedule -/

theorem exists_start_of_beginNext {s' : σ} (h : beginNext source jobs s = some (jobs', s')) :
    ∃ before after story result, jobs = before ++ ⟨story, .waiting⟩ :: after ∧
      jobs' = before ++ ⟨story, .running result⟩ :: after ∧
      (tasksOfRecord source story).run s = (result, s') := by
  induction jobs generalizing jobs' with
  | nil => cases h
  | cons job jobs ih =>
      obtain ⟨story, progress⟩ := job
      cases progress with
      | waiting =>
          cases h
          exact ⟨[], jobs, story, _, rfl, rfl, rfl⟩
      | running result | done result =>
          obtain ⟨⟨jobs₁, s₁⟩, hnext, hjobs⟩ := Option.map_eq_some_iff.mp h
          cases hjobs
          obtain ⟨before, after, d, answer, rfl, rfl, hrun⟩ := ih hnext
          exact ⟨_ :: before, after, d, answer, rfl, rfl, hrun⟩

theorem exists_finish_of_endNext (h : endNext jobs = some jobs') :
    ∃ before after story result, jobs = before ++ ⟨story, .running result⟩ :: after ∧
      jobs' = before ++ ⟨story, .done result⟩ :: after := by
  induction jobs generalizing jobs' with
  | nil => cases h
  | cons job jobs ih =>
      have hlater : ∀ {job' : Job}, (endNext jobs).map (job' :: ·) = some jobs' →
          ∃ before after story result,
            job' :: jobs = before ++ ⟨story, .running result⟩ :: after ∧
            jobs' = before ++ ⟨story, .done result⟩ :: after := by
        intro job' hmap
        obtain ⟨jobs₁, hnext, rfl⟩ := Option.map_eq_some_iff.mp hmap
        obtain ⟨before, after, d, answer, rfl, rfl⟩ := ih hnext
        exact ⟨job' :: before, after, d, answer, rfl, rfl⟩
      obtain ⟨story, progress⟩ := job
      cases progress with
      | waiting | done result => exact hlater h
      | running result =>
          rw [endNext] at h
          split at h
          · cases h
            exact ⟨[], jobs, story, result, rfl, rfl⟩
          · exact hlater h

/-- A turn is a move. -/
theorem move_of_turn {s' : σ} (h : turn source permits jobs s = some (jobs', s')) :
    Move source permits (jobs, s) (jobs', s') := by
  rw [turn, Option.or_eq_some_iff] at h
  rcases h with h | ⟨-, h⟩
  · split at h
    · rename_i hfree
      obtain ⟨before, after, story, result, rfl, rfl, hrun⟩ := exists_start_of_beginNext h
      refine .start ?_ hrun
      rw [List.countP_append, List.countP_cons_of_neg Bool.false_ne_true] at hfree
      rwa [List.countP_append]
    · cases h
  · obtain ⟨jobs₁, hnext, hjobs⟩ := Option.map_eq_some_iff.mp h
    cases hjobs
    obtain ⟨before, after, story, result, rfl, rfl⟩ := exists_finish_of_endNext hnext
    exact .finish

/-- Taking turns is one of the schedules. -/
theorem moves_takeTurns (source : RecordSource σ) (permits : Nat) (jobs : List Job) (s : σ) :
    Relation.ReflTransGen (Move source permits) (jobs, s) (takeTurns source permits jobs s) := by
  induction jobs, s using takeTurns.induct source permits with
  | case1 jobs s h =>
      rw [takeTurns_of_none h]
  | case2 jobs s jobs' s' h hless ih =>
      rw [takeTurns_of_some h]
      exact .head (move_of_turn h) ih

/-! ## What a schedule keeps -/

/-- The calls are those for the given stories, in their order. None has a wrong result, and not too
many are under way. -/
structure Serves (answer : Record → Except SourceFailure (List Record)) (permits : Nat)
    (stories : List Record) (jobs : List Job) : Prop where
  stories : jobs.map Job.story = stories
  faithful : ∀ job ∈ jobs, job.IsFaithful answer
  permitted : jobs.countP Job.isRunning ≤ permits

theorem serves_start (answer : Record → Except SourceFailure (List Record)) (permits : Nat)
    (stories : List Record) : Serves answer permits stories (stories.map Job.ofStory) where
  stories := by
    rw [List.map_map]
    exact List.map_id stories
  faithful := by
    intro job hjob
    obtain ⟨story, -, rfl⟩ := List.mem_map.mp hjob
    trivial
  permitted := by
    have hnone : (stories.map Job.ofStory).countP Job.isRunning = 0 := by
      rw [List.countP_eq_zero]
      intro job hjob
      obtain ⟨story, -, rfl⟩ := List.mem_map.mp hjob
      exact Bool.false_ne_true
    rw [hnone]
    exact Nat.zero_le permits

theorem forall_mem_of_replace {P : Job → Prop} {before after : List Job} {job job' : Job}
    (h : ∀ d ∈ before ++ job :: after, P d) (hjob : P job') :
    ∀ d ∈ before ++ job' :: after, P d := by
  rw [List.forall_mem_append, List.forall_mem_cons] at h ⊢
  exact ⟨h.1, hjob, h.2.2⟩

/-- One move keeps all this, and the state of the source. -/
theorem Serves.move (hsource : AnswersAlike source answer) (h : Serves answer permits stories c.1)
    (hmove : Move source permits c c') : Serves answer permits stories c'.1 ∧ c'.2 = c.2 := by
  cases hmove with
  | @start before after story s s' result hfree hrun =>
      rw [hsource story s, Prod.mk.injEq] at hrun
      obtain ⟨rfl, rfl⟩ := hrun
      refine ⟨{ stories := ?_, faithful := ?_, permitted := ?_ }, rfl⟩
      · simpa using h.stories
      · have hanswer : Job.IsFaithful answer ⟨story, .running (answer story)⟩ := rfl
        exact forall_mem_of_replace h.faithful hanswer
      · rw [List.countP_append] at hfree
        rw [List.countP_append, List.countP_cons_of_pos rfl]
        omega
  | @finish before after story s result =>
      have hrunning : result = answer story :=
        h.faithful ⟨story, .running result⟩ (List.mem_append_right _ List.mem_cons_self)
      refine ⟨{ stories := ?_, faithful := ?_, permitted := ?_ }, rfl⟩
      · simpa using h.stories
      · have hanswer : Job.IsFaithful answer ⟨story, .done result⟩ := hrunning
        exact forall_mem_of_replace h.faithful hanswer
      · have hpermitted := h.permitted
        rw [List.countP_append, List.countP_cons_of_pos rfl] at hpermitted
        rw [List.countP_append, List.countP_cons_of_neg Bool.false_ne_true]
        omega

/-- So does any number of moves. -/
theorem Serves.moves (hsource : AnswersAlike source answer) (h : Serves answer permits stories c.1)
    (hmoves : Relation.ReflTransGen (Move source permits) c c') :
    Serves answer permits stories c'.1 ∧ c'.2 = c.2 := by
  induction hmoves with
  | refl => exact ⟨h, rfl⟩
  | tail _ hmove ih =>
      obtain ⟨hserves, hstate⟩ := ih.1.move hsource hmove
      exact ⟨hserves, hstate.trans ih.2⟩

/-! ## Where a schedule ends -/

theorem remaining_append (before after : List Job) :
    remaining (before ++ after) = remaining before + remaining after := by
  induction before with
  | nil => exact (Nat.zero_add _).symm
  | cons job before ih => rw [List.cons_append, remaining, remaining, ih, Nat.add_assoc]

/-- Every move is one of those that remain, so no schedule goes on for ever. -/
theorem Move.remaining_eq (hmove : Move source permits c c') :
    remaining c.1 = remaining c'.1 + 1 := by
  cases hmove with
  | start =>
      simp only [remaining_append, remaining, Job.remaining]
      omega
  | finish =>
      simp only [remaining_append, remaining, Job.remaining]
      omega

/-- As long as a call has not ended, there is a move: a call that is under way may end, and if there
is none, there is room for one to begin. -/
theorem exists_move (hpermits : 1 ≤ permits) (hopen : ¬jobs.all Job.isDone) (s : σ) :
    ∃ c', Move source permits (jobs, s) c' := by
  by_cases hrunning : ∃ job ∈ jobs, job.isRunning
  · obtain ⟨⟨story, progress⟩, hjob, hprogress⟩ := hrunning
    obtain ⟨before, after, rfl⟩ := List.append_of_mem hjob
    cases progress with
    | running result => exact ⟨_, .finish⟩
    | waiting => cases hprogress
    | done result => cases hprogress
  · rw [List.all_eq_true] at hopen
    push Not at hopen hrunning
    obtain ⟨⟨story, progress⟩, hjob, hprogress⟩ := hopen
    obtain ⟨before, after, rfl⟩ := List.append_of_mem hjob
    have hfree : (before ++ after).countP Job.isRunning < permits := by
      have hnone : (before ++ after).countP Job.isRunning = 0 := by
        rw [List.countP_eq_zero]
        intro job hjob
        refine hrunning job ?_
        rcases List.mem_append.mp hjob with hjob | hjob
        · exact List.mem_append_left _ hjob
        · exact List.mem_append_right _ (List.mem_cons_of_mem _ hjob)
      omega
    cases progress with
    | waiting => exact ⟨_, .start hfree rfl⟩
    | running result => exact absurd rfl (hrunning _ hjob)
    | done result => exact absurd rfl hprogress

/-- Calls that have all ended give together what asking story by story gives. -/
theorem gathered_eq (hfaithful : ∀ job ∈ jobs, job.IsFaithful answer)
    (hdone : jobs.all Job.isDone) :
    gathered jobs = some (answers answer (jobs.map Job.story)) := by
  induction jobs with
  | nil => rfl
  | cons job jobs ih =>
      rw [List.all_cons, Bool.and_eq_true] at hdone
      have hothers := ih (fun d hd => hfaithful d (List.mem_cons_of_mem job hd)) hdone.2
      obtain ⟨story, progress⟩ := job
      cases progress with
      | waiting => cases hdone.1
      | running result => cases hdone.1
      | done result =>
          have hresult : result = answer story := hfaithful _ List.mem_cons_self
          rw [gathered, hothers, hresult]
          rfl

/-- A schedule never has too many calls under way.  It goes on until all calls have ended, but not
for ever, and has gathered then what asking story by story gives. -/
theorem schedule_gathers (hsource : AnswersAlike source answer) (hpermits : 1 ≤ permits)
    (hmoves : Relation.ReflTransGen (Move source permits) (stories.map Job.ofStory, s) c) :
    c.1.countP Job.isRunning ≤ permits ∧
    (c.1.all Job.isDone →
      c.2 = s ∧ gathered c.1 = some ((tasksOfAll source stories).run s).1) ∧
    (¬c.1.all Job.isDone → ∃ c', Move source permits c c') ∧
    ∀ c', Move source permits c c' → remaining c'.1 < remaining c.1 := by
  obtain ⟨hserves, hstate⟩ := (serves_start answer permits stories).moves hsource hmoves
  refine ⟨hserves.permitted, ?_, ?_, ?_⟩
  · intro hdone
    refine ⟨hstate, ?_⟩
    rw [gathered_eq hserves.faithful hdone, hserves.stories, hsource.run_tasksOfAll]
  · exact fun hopen => exists_move hpermits hopen c.2
  · intro c' hmove
    rw [hmove.remaining_eq]
    exact Nat.lt_succ_self _

end IssueQuery.Search
