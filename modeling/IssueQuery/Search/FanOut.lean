import IssueQuery.Source.Basic
import IssueQuery.Value.Text

/-!
# Asking several user stories at the same time

The tasks of a project are those of its user stories.  The calls for the stories are under way at
the same time, as long as their number stays within a limit.  They begin in the order of the
stories, and one that never returns keeps its place.
-/

namespace IssueQuery.Search

variable {σ : Type}

/-- The tasks of a user story; none if they cannot be listed. -/
def tasksOf (source : RecordSource σ) (story : Value) : Fetch σ (List Record) :=
  tryCatch (source.tasks story) fun
    | .stalled => throw .stalled
    | _ => pure []

/-- Why a record cannot be asked for its tasks: it has no fields. -/
def fault? (story : Record) : Option SourceFailure :=
  match story.content with
  | .object _ => none
  | v => some (.broken v.noFieldsMessage)

/-- The tasks of a record that should be a user story. -/
def tasksOfRecord (source : RecordSource σ) (story : Record) : Fetch σ (List Record) :=
  match fault? story with
  | none => tasksOf source (story.get "id")
  | some e => throw e

/-! ## Calls under way -/

/-- How far the call for the tasks of a user story has come. -/
inductive Progress where
  | waiting
  | running (result : Except SourceFailure (List Record))
  | done (result : Except SourceFailure (List Record))

/-- The call for the tasks of a user story. -/
structure Job where
  story : Record
  progress : Progress

namespace Job

/-- The call for a story that has not been asked yet. -/
def ofStory (story : Record) : Job :=
  ⟨story, .waiting⟩

def isRunning (job : Job) : Bool :=
  match job.progress with
  | .running _ => true
  | _ => false

def isDone (job : Job) : Bool :=
  match job.progress with
  | .done _ => true
  | _ => false

/-- The moves that a call has before it. -/
def remaining (job : Job) : Nat :=
  match job.progress with
  | .waiting => 2
  | .running _ => 1
  | .done _ => 0

end Job

/-- The moves that calls have before them. -/
def remaining : List Job → Nat
  | [] => 0
  | job :: jobs => job.remaining + remaining jobs

/-- Whether a call returns at all. -/
def returns : Except SourceFailure (List Record) → Bool
  | .error .stalled => false
  | _ => true

/-- The first call that waits begins, if there is one. -/
def beginNext (source : RecordSource σ) : List Job → σ → Option (List Job × σ)
  | [], _ => none
  | ⟨story, .waiting⟩ :: jobs, s =>
    let (result, s) := (tasksOfRecord source story).run s
    some (⟨story, .running result⟩ :: jobs, s)
  | job :: jobs, s => (beginNext source jobs s).map fun (jobs, s) => (job :: jobs, s)

/-- The first call under way that returns has ended, if there is one. -/
def endNext : List Job → Option (List Job)
  | [] => none
  | ⟨story, .running result⟩ :: jobs =>
    if returns result then some (⟨story, .done result⟩ :: jobs)
    else (endNext jobs).map (⟨story, .running result⟩ :: ·)
  | job :: jobs => (endNext jobs).map (job :: ·)

/-- One turn: a call begins while fewer than `permits` are under way, and otherwise one ends. -/
def turn (source : RecordSource σ) (permits : Nat) (jobs : List Job) (s : σ) :
    Option (List Job × σ) :=
  (if jobs.countP Job.isRunning < permits then beginNext source jobs s else none).or
    ((endNext jobs).map (·, s))

theorem remaining_of_beginNext {source : RecordSource σ} {jobs jobs' : List Job} {s s' : σ}
    (h : beginNext source jobs s = some (jobs', s')) : remaining jobs = remaining jobs' + 1 := by
  induction jobs generalizing jobs' with
  | nil => cases h
  | cons job jobs ih =>
      obtain ⟨story, progress⟩ := job
      cases progress with
      | waiting =>
          cases h
          simp only [remaining, Job.remaining]
          omega
      | running result | done result =>
          obtain ⟨⟨jobs₁, s₁⟩, hnext, hjobs⟩ := Option.map_eq_some_iff.mp h
          cases hjobs
          have := ih hnext
          simp only [remaining] at this ⊢
          omega

theorem remaining_of_endNext {jobs jobs' : List Job} (h : endNext jobs = some jobs') :
    remaining jobs = remaining jobs' + 1 := by
  induction jobs generalizing jobs' with
  | nil => cases h
  | cons job jobs ih =>
      have hlater : ∀ {job' : Job}, (endNext jobs).map (job' :: ·) = some jobs' →
          remaining (job' :: jobs) = remaining jobs' + 1 := by
        intro job' hmap
        obtain ⟨jobs₁, hnext, rfl⟩ := Option.map_eq_some_iff.mp hmap
        have := ih hnext
        simp only [remaining] at this ⊢
        omega
      obtain ⟨story, progress⟩ := job
      cases progress with
      | waiting | done result => exact hlater h
      | running result =>
          rw [endNext] at h
          split at h
          · cases h
            simp only [remaining, Job.remaining]
            omega
          · exact hlater h

theorem remaining_of_turn {source : RecordSource σ} {permits : Nat} {jobs jobs' : List Job}
    {s s' : σ} (h : turn source permits jobs s = some (jobs', s')) :
    remaining jobs' < remaining jobs := by
  rw [turn, Option.or_eq_some_iff] at h
  rcases h with h | ⟨-, h⟩
  · split at h
    · have := remaining_of_beginNext h
      omega
    · cases h
  · obtain ⟨jobs₁, hnext, hjobs⟩ := Option.map_eq_some_iff.mp h
    cases hjobs
    have := remaining_of_endNext hnext
    omega

/-- Takes turns as long as there are any. -/
def takeTurns (source : RecordSource σ) (permits : Nat) (jobs : List Job) (s : σ) : List Job × σ :=
  match h : turn source permits jobs s with
  | none => (jobs, s)
  | some (jobs', s') =>
    have := remaining_of_turn h
    takeTurns source permits jobs' s'
termination_by remaining jobs

/-- What the calls give together, story by story, when all of them have ended. -/
def gathered : List Job → Option (Except SourceFailure (List Record))
  | [] => some (.ok [])
  | ⟨_, .done result⟩ :: jobs =>
    (gathered jobs).map fun others => do return (← result) ++ (← others)
  | _ :: _ => none

/-- The tasks of several user stories.  A record that is none makes the whole fail, although all the
others are asked for their tasks, and so does a call that never returns. -/
def fanOut (source : RecordSource σ) (permits : Nat) (stories : List Record) :
    Fetch σ (List Record) :=
  ExceptT.mk fun s =>
    let (jobs, s) := takeTurns source permits (stories.map Job.ofStory) s
    match stories.findSome? fault? with
    | some e => (.error e, s)
    | none => ((gathered jobs).getD (.error .stalled), s)

end IssueQuery.Search
